import DohProxy.Json.Response

/-!
# When the JSON answer comes

The upstream layer's parser has read the names of a reply's questions and the owner names
of its records, but not the names inside of RDATA. `parse_name` reads these with no limit
on the pointers it follows.

## The model

`nameHop` leads from one label or pointer of a name to the next. A name *loops* when this
comes to a place it has been at, and *fails* when it ends elsewhere than at a root byte.
`rdataNames` lists the names that `parse_rrs` is to read in the data of a reply's records.

## What is proved

`Reads` says what reading a list of names makes of a computation: it returns when all can be
read, fails at the first that fails and does not end at the first that loops, whichever
comes first; `Reads.bind` puts computations in sequence. `parseDnsToJson_ends_iff` —
**the JSON answer for a reply the upstream layer accepts comes exactly when none of these
names loops, up to the first that fails.**
-/

namespace DohProxy.Json

open Lib Outcome Net Dns Upstream

section

variable {packet : List UInt8} {off : ℕ}

/-! ### Names that loop, names that fail -/

/-- Where `parse_name` goes on after the label or the pointer at `off`. -/
def nameHop (packet : List UInt8) (off : ℕ) : Option ℕ :=
  match packet[off]? with
  | none => none
  | some len =>
    if len &&& 0xc0 = 0xc0 then (packet[off + 1]?).map (pointerTarget len)
    else if len = 0 then none
    else if off + 1 + len.toNat ≤ packet.length then some (off + 1 + len.toNat)
    else none

/-- The name at `off` comes to a label or pointer it has been at. -/
def NameLoops (packet : List UInt8) (off : ℕ) : Prop := ComesBack (nameHop packet) off

/-- The name at `off` comes to a place where no label, pointer or root byte is complete. -/
def NameFails (packet : List UInt8) (off : ℕ) : Prop :=
  ∃ n last, orbit (nameHop packet) n off = some last ∧ nameHop packet last = none ∧
    packet[last]? ≠ some 0

theorem nameHop_lt {y z : ℕ} (h : nameHop packet y = some z) : y < packet.length := by
  unfold nameHop at h
  split at h
  · simp at h
  · next hb => exact (List.getElem?_eq_some_iff.mp hb).1

theorem NameFails.not_loops (h : NameFails packet off) : ¬ NameLoops packet off := by
  obtain ⟨n, last, hn, hlast, -⟩ := h
  refine (stops_iff_not_comesBack fun _ _ => nameHop_lt).mp ⟨n + 1, ?_⟩
  rw [orbit_add, hn, Option.bind_some]
  exact orbit_succ_of_none hlast 0

/-- A round of the loop at a label or a pointer. -/
theorem parseNameLoop_hop {z : ℕ} (h : nameHop packet off = some z) (name : String)
    (jumpOffset : Option ℕ) :
    ∃ name' jumpOffset', ∀ fuel, parseNameLoop packet (fuel + 1) off name jumpOffset =
      parseNameLoop packet fuel z name' jumpOffset' := by
  have hlt := nameHop_lt h
  unfold nameHop at h
  rw [List.getElem?_eq_getElem hlt] at h
  dsimp only at h
  split at h
  · next hc =>
    rw [Option.map_eq_some_iff] at h
    obtain ⟨low, hlow, rfl⟩ := h
    have hlt' := (List.getElem?_eq_some_iff.mp hlow).1
    refine ⟨name, jumpOffset.or (some (off + 2)), fun fuel => ?_⟩
    simp only [parseNameLoop, ensure_pos hlt, ok_bind, index_pos hlt, if_pos hc, ensure_pos hlt',
      index_eq_ok.mpr hlow]
  · next hc =>
    split at h
    · simp at h
    · next h0 =>
      split at h
      · next hle =>
        rw [Option.some.injEq] at h
        subst h
        refine ⟨(if name.isEmpty then name else name ++ ".") ++
          fromUtf8Lossy ((packet.take (off + 1 + packet[off].toNat)).drop (off + 1)), jumpOffset,
            fun fuel => ?_⟩
        simp only [parseNameLoop, ensure_pos hlt, ok_bind, index_pos hlt, if_neg hc,
          if_neg h0, ensure_pos hle,
          slice_pos (show off + 1 ≤ off + 1 + packet[off].toNat ∧
            _ from ⟨Nat.le_add_right _ _, hle⟩)]
      · simp at h

/-- The last round, at a root byte. -/
theorem parseNameLoop_root (h : packet[off]? = some 0) (name : String)
    (jumpOffset : Option ℕ) (fuel : ℕ) :
    parseNameLoop packet (fuel + 1) off name jumpOffset = .ok (name,
      jumpOffset.getD (off + 1)) := by
  have hlt := (List.getElem?_eq_some_iff.mp h).1
  simp [parseNameLoop, hlt, index_eq_ok.mpr h]

/-- The last round, elsewhere. -/
theorem parseNameLoop_fail (h : nameHop packet off = none) (h0 : packet[off]? ≠ some 0)
    (name : String)
    (jumpOffset : Option ℕ) : ∃ e, ∀ fuel,
      parseNameLoop packet (fuel + 1) off name jumpOffset = .err e := by
  unfold nameHop at h
  cases hb : packet[off]? with
  | none =>
    have hlt : ¬ off < packet.length := by simpa using hb
    exact ⟨"Name extends beyond packet", fun fuel => by simp [parseNameLoop, hlt]⟩
  | some len =>
    have hlt := (List.getElem?_eq_some_iff.mp hb).1
    rw [hb] at h h0
    dsimp only at h
    split at h
    · next hc =>
      have hlt' : ¬ off + 1 < packet.length := by simpa using h
      refine ⟨"Incomplete compression pointer", fun fuel => ?_⟩
      simp only [parseNameLoop, ensure_pos hlt, ok_bind, index_eq_ok.mpr hb, if_pos hc,
        ensure_neg hlt', err_bind]
    · next hc =>
      split at h
      · next hz => exact absurd (congrArg some hz) h0
      · next hz =>
        split at h
        · simp at h
        · next hle =>
          refine ⟨"Label extends beyond packet", fun fuel => ?_⟩
          simp only [parseNameLoop, ensure_pos hlt, ok_bind,
            index_eq_ok.mpr hb, if_neg hc, if_neg hz,
            ensure_neg hle, err_bind]

/-- A name that loops is read for ever. -/
theorem parseNameLoop_diverges (h : ¬ Stops (nameHop packet) off) (name : String)
    (jumpOffset : Option ℕ) :
    Diverges fun fuel => parseNameLoop packet fuel off name jumpOffset := by
  intro fuel
  induction fuel generalizing off name jumpOffset with
  | zero => rfl
  | succ fuel ih =>
    cases hz : nameHop packet off with
    | none => exact absurd (stops_of_none hz) h
    | some z =>
      obtain ⟨name', jumpOffset', hround⟩ := parseNameLoop_hop hz name jumpOffset
      exact (hround fuel).trans (ih ((stops_step_iff hz).not.mp h) name' jumpOffset')

/-- A name that stops is read, or fails, by where it stops. -/
theorem parseNameLoop_settles : ∀ {n off last : ℕ} (name : String) (jumpOffset : Option ℕ),
    orbit (nameHop packet) n off = some last → nameHop packet last = none →
      if packet[last]? = some 0 then
        ∃ r, Settles (fun fuel => parseNameLoop packet fuel off name jumpOffset) (.ok r)
      else ∃ e, Settles (fun fuel => parseNameLoop packet fuel off name jumpOffset) (.err e) := by
  intro n
  induction n with
  | zero =>
    intro off last name jumpOffset hlast hstop
    rw [orbit_zero, Option.some.injEq] at hlast
    subst hlast
    split
    · next h0 =>
      exact ⟨_, settles_succ rfl (parseNameLoop_root h0 name jumpOffset) (settles_const (by simp))⟩
    · next h0 =>
      obtain ⟨e, he⟩ := parseNameLoop_fail hstop h0 name jumpOffset
      exact ⟨e, settles_succ rfl he (settles_const (by simp))⟩
  | succ n ih =>
    intro off last name jumpOffset hlast hstop
    cases hz : nameHop packet off with
    | none => rw [orbit_succ_of_none hz] at hlast; simp at hlast
    | some z =>
      rw [orbit_succ_of_some hz] at hlast
      obtain ⟨name', jumpOffset', hround⟩ := parseNameLoop_hop hz name jumpOffset
      have hrest := ih name' jumpOffset' hlast hstop
      by_cases h0 : packet[last]? = some 0
      · rw [if_pos h0] at hrest ⊢
        obtain ⟨r, hr⟩ := hrest
        exact ⟨r, settles_succ rfl hround hr⟩
      · rw [if_neg h0] at hrest ⊢
        obtain ⟨e, he⟩ := hrest
        exact ⟨e, settles_succ rfl hround he⟩

/-- A loop that stops has a last place. -/
theorem exists_last {f : ℕ → Option ℕ} {x : ℕ} (h : Stops f x) :
    ∃ n last, orbit f n x = some last ∧ f last = none := by
  obtain ⟨n, hn⟩ := h
  induction n with
  | zero => simp at hn
  | succ n ih =>
    cases hm : orbit f n x with
    | none => exact ih hm
    | some last =>
      refine ⟨n, last, hm, ?_⟩
      rw [orbit_add, hm, Option.bind_some] at hn
      cases hf : f last with
      | none => rfl
      | some y => rw [orbit_succ_of_some hf] at hn; simp at hn

/-! ### Reading names in order -/

/-- The names can be read. -/
def AllRead (packet : List UInt8) (names : List ℕ) : Prop :=
  ∀ off ∈ names, ¬ NameLoops packet off ∧ ¬ NameFails packet off

/-- The first name that cannot be read is of a kind. -/
def FirstUnread (packet : List UInt8) (kind : ℕ → Prop) (names : List ℕ) : Prop :=
  ∃ before off after, names = before ++ off :: after ∧ AllRead packet before ∧ kind off

theorem allRead_append {as bs : List ℕ} : AllRead packet (as ++ bs) ↔
    AllRead packet as ∧ AllRead packet bs := by
  simp only [AllRead, List.mem_append, or_imp, forall_and]
  exact and_and_and_comm

theorem firstUnread_append {kind : ℕ → Prop} {as bs : List ℕ}
    (h : FirstUnread packet kind (as ++ bs)) :
    FirstUnread packet kind as ∨ AllRead packet as ∧ FirstUnread packet kind bs := by
  obtain ⟨before, off, after, heq, hread, hkind⟩ := h
  rcases List.append_eq_append_iff.mp heq with ⟨mid, rfl, rfl⟩ | ⟨mid, rfl, hmid⟩
  · exact .inr ⟨(allRead_append.mp hread).1, mid, off, after, rfl,
      (allRead_append.mp hread).2, hkind⟩
  · cases mid with
    | nil => exact .inr ⟨by simpa using hread, [], off,
      after, by simpa using hmid.symm, by simp [AllRead], hkind⟩
    | cons b mid =>
      rw [List.cons_append, List.cons.injEq] at hmid
      obtain ⟨rfl, -⟩ := hmid
      exact .inl ⟨before, off, mid, rfl, hread, hkind⟩

/-- All names can be read, or there is a first that cannot. -/
theorem read_cases (packet : List UInt8) (names : List ℕ) : AllRead packet names ∨
    FirstUnread packet (NameLoops packet) names ∨ FirstUnread packet (NameFails packet) names := by
  induction names with
  | nil => exact .inl (by simp [AllRead])
  | cons off names ih =>
    by_cases hl : NameLoops packet off
    · exact .inr (.inl ⟨[], off, names, rfl, by simp [AllRead], hl⟩)
    by_cases hf : NameFails packet off
    · exact .inr (.inr ⟨[], off, names, rfl, by simp [AllRead], hf⟩)
    have hcons : ∀ {before}, AllRead packet before → AllRead packet (off :: before) := by
      rintro before h off' (_ | ⟨_, hmem⟩)
      · exact ⟨hl, hf⟩
      · exact h off' hmem
    rcases ih with h | ⟨before, o, after, rfl, h, ho⟩ | ⟨before, o, after, rfl, h, ho⟩
    · exact .inl (hcons h)
    · exact .inr (.inl ⟨off :: before, o, after, rfl, hcons h, ho⟩)
    · exact .inr (.inr ⟨off :: before, o, after, rfl, hcons h, ho⟩)

/-- **What reading names makes of a computation** whose result, if it has one, satisfies `Q`. -/
structure Reads {α : Type} (packet : List UInt8) (names : List ℕ) (x : ℕ → Outcome Error α)
    (Q : α → Prop) : Prop where
  /-- It returns when all names can be read. -/
  read : AllRead packet names → ∃ r, Q r ∧ Settles x (.ok r)
  /-- It does not end when the first that cannot be read loops. -/
  loops : FirstUnread packet (NameLoops packet) names → Diverges x
  /-- It fails when the first that cannot be read does. -/
  fails : FirstUnread packet (NameFails packet) names → ∃ e, Settles x (.err e)

section

variable {α β : Type} {Q : α → Prop} {R : β → Prop} {x : ℕ → Outcome Error α}

theorem not_firstUnread_nil {kind : ℕ → Prop} : ¬ FirstUnread packet kind [] := by
  rintro ⟨before, off, after, h, -⟩
  simp at h

/-- A computation that reads no names. -/
theorem Reads.of_settles {r : α} (h : Settles x (.ok r)) (hr : Q r) : Reads packet [] x Q :=
  ⟨fun _ => ⟨r, hr, h⟩, fun h => absurd h not_firstUnread_nil, fun h =>
    absurd h not_firstUnread_nil⟩

/-- **In sequence**, names are read one list after the other. -/
theorem Reads.bind {as bs : List ℕ} {f : ℕ → α → Outcome Error β} (hx : Reads packet as x Q)
    (hf : ∀ r, Q r → Reads packet bs (fun fuel => f fuel r) R) :
    Reads packet (as ++ bs) (fun fuel => x fuel >>= f fuel) R := by
  refine ⟨fun h => ?_, fun h => ?_, fun h => ?_⟩
  · obtain ⟨ha, hb⟩ := allRead_append.mp h
    obtain ⟨r, hr, hxr⟩ := hx.read ha
    obtain ⟨r', hr', hfr⟩ := (hf r hr).read hb
    exact ⟨r', hr', hxr.bind_ok hfr⟩
  · rcases firstUnread_append h with ha | ⟨ha, hb⟩
    · exact (hx.loops ha).bind
    · obtain ⟨r, hr, hxr⟩ := hx.read ha
      exact hxr.bind_diverges ((hf r hr).loops hb)
  · rcases firstUnread_append h with ha | ⟨ha, hb⟩
    · obtain ⟨e, he⟩ := hx.fails ha
      exact ⟨e, he.bind_err⟩
    · obtain ⟨r, hr, hxr⟩ := hx.read ha
      obtain ⟨e, he⟩ := (hf r hr).fails hb
      exact ⟨e, hxr.bind_ok he⟩

/-- What is made of the result reads no names. -/
theorem Reads.map {as : List ℕ} (hx : Reads packet as x Q) (g : α → β) (hg : ∀ r, Q r → R (g r)) :
    Reads packet as (fun fuel => x fuel >>= fun r => .ok (g r)) R := by
  rw [← List.append_nil as]
  exact hx.bind fun r hr => Reads.of_settles (settles_const (by simp)) (hg r hr)

end

/-- Reading the name at an offset. -/
theorem reads_parseName (packet : List UInt8) (off : ℕ) :
    Reads packet [off] (fun fuel => parseName fuel packet off) fun _ => True := by
  have hone : ∀ {kind : ℕ → Prop}, FirstUnread packet kind [off] → kind off := by
    rintro kind ⟨before, o, after, heq, -, hkind⟩
    cases before with
    | nil => rw [List.nil_append, List.cons.injEq] at heq; exact heq.1 ▸ hkind
    | cons b before => simp at heq
  have hstops := stops_iff_not_comesBack (f := nameHop packet) (x := off) fun _ _ => nameHop_lt
  refine ⟨fun h => ?_, fun h => ?_, fun h => ?_⟩
  · obtain ⟨hl, hf⟩ := h off (by simp)
    obtain ⟨n, last, hn, hlast⟩ := exists_last (hstops.mpr hl)
    have hs := parseNameLoop_settles "" none hn hlast
    rw [if_pos (by_contra fun h0 => hf ⟨n, last, hn, hlast, h0⟩)] at hs
    obtain ⟨r, hr⟩ := hs
    exact ⟨r, trivial, hr⟩
  · exact parseNameLoop_diverges (fun hs => hstops.mp hs (hone h)) "" none
  · obtain ⟨n, last, hn, hlast, h0⟩ := hone h
    have hs := parseNameLoop_settles "" none hn hlast
    rwa [if_neg h0] at hs

/-! ### The text of a name -/

/-- The labels of a name as text, with dots between them. -/
def lossyName (labels : List (List UInt8)) : String := ".".intercalate (labels.map fromUtf8Lossy)

theorem lossyName_ne_empty {labels : List (List UInt8)} (hne : labels ≠ [])
    (h : ∀ label ∈ labels, label ≠ []) : lossyName labels ≠ "" := by
  obtain ⟨first, rest, rfl⟩ := List.exists_cons_of_ne_nil hne
  have hfirst := fromUtf8Lossy_ne_empty (h first List.mem_cons_self)
  rw [lossyName, List.map_cons]
  by_cases hrest : rest.map fromUtf8Lossy = []
  · rw [hrest, String.intercalate_singleton]
    exact hfirst
  · rw [String.intercalate_cons_of_ne_nil hrest]
    simp [hfirst]

/-- One more label, after those that have been read. -/
theorem lossyName_concat {done : List (List UInt8)} (h : ∀ label ∈ done, label ≠ [])
    (label : List UInt8) :
    (if (lossyName done).isEmpty then lossyName done else lossyName done ++ ".") ++
      fromUtf8Lossy label = lossyName (done ++ [label]) := by
  by_cases hdone : done = []
  · subst hdone
    simp [lossyName]
  · have hne : ¬ (lossyName done).isEmpty := by
      simpa using lossyName_ne_empty hdone h
    rw [if_neg hne, lossyName, lossyName, List.map_append, List.map_singleton,
      String.intercalate_append_of_ne_nil (by simpa using hdone) (List.cons_ne_nil _ _),
      String.intercalate_singleton]

/-- **Names the upstream layer's parser has read are read**, and as their labels. -/
theorem settles_of_wireName {k next : ℕ} {labels : List (List UInt8)}
    (h : WireName packet k off labels next) :
    ∀ (done : List (List UInt8)) (jumpOffset : Option ℕ), (∀ label ∈ done, label ≠ []) → Settles
      (fun fuel => parseNameLoop packet fuel off (lossyName done) jumpOffset)
        (.ok (lossyName (done ++ labels), jumpOffset.getD next)) := by
  induction h with
  | root hb =>
    intro done jumpOffset _
    rw [List.append_nil]
    exact settles_succ rfl (parseNameLoop_root hb _ jumpOffset) (settles_const (by simp))
  | @label k off next len bs labels hb hpos hlt hbs hd h ih =>
    intro done jumpOffset hdone
    have hle : off + 1 + len.toNat ≤ packet.length := by have := h.lt_next; omega
    have hoff := (List.getElem?_eq_some_iff.mp hb).1
    have hc : ¬ len &&& 0xc0 = 0xc0 := fun hc => by have := (and_c0_eq_c0_iff len).mp hc; omega
    have h0 : ¬ len = 0 := by rintro rfl; simp at hpos
    have hs := ih (done ++ [bs]) jumpOffset fun label hlabel => by
      rcases List.mem_append.mp hlabel with hlabel | hlabel
      · exact hdone label hlabel
      · rw [List.mem_singleton.mp hlabel]
        exact List.ne_nil_of_length_pos (by omega)
    rw [List.append_assoc, List.singleton_append] at hs
    refine settles_succ rfl (fun fuel => ?_) hs
    simp only [parseNameLoop, ensure_pos hoff, ok_bind, index_eq_ok.mpr hb, if_neg hc,
      if_neg h0, ensure_pos hle,
      slice_of_drop (show off + 1 + len.toNat = off + 1 + bs.length by omega) hle hd,
      lossyName_concat hdone]
  | @pointer k off next high low labels hb hh hl hptr h ih =>
    intro done jumpOffset hdone
    have hoff := (List.getElem?_eq_some_iff.mp hb).1
    have hoff' := (List.getElem?_eq_some_iff.mp hl).1
    have hc : high &&& 0xc0 = 0xc0 := (and_c0_eq_c0_iff high).mpr hh
    have hs := ih done (jumpOffset.or (some (off + 2))) hdone
    have hjump : (jumpOffset.or (some (off + 2))).getD next = jumpOffset.getD (off + 2) := by
      cases jumpOffset <;> rfl
    rw [hjump] at hs
    refine settles_succ rfl (fun fuel => ?_) hs
    simp only [parseNameLoop, ensure_pos hoff, ok_bind, index_eq_ok.mpr hb,
      if_pos hc, ensure_pos hoff',
      index_eq_ok.mpr hl]

/-- **A name the upstream layer's parser has read** is read. -/
theorem settles_of_fromWire {name : Name} {next : ℕ}
    (h : Name.fromWire packet off = .ok (name, next)) :
    Settles (fun fuel => parseName fuel packet off) (.ok (lossyName name.labels, next)) := by
  obtain ⟨k, -, -, hn⟩ := Name.fromWire_eq_ok_iff.mp h
  exact settles_of_wireName hn [] none (by simp)

theorem reads_of_fromWire {name : Name} {next : ℕ}
    (h : Name.fromWire packet off = .ok (name, next)) :
    Reads packet [] (fun fuel => parseName fuel packet off) fun r => r.2 = next :=
  Reads.of_settles (settles_of_fromWire h) rfl

/-! ### The names inside of RDATA -/

/-- Where the name stands that is to be read in the data of the record whose fields start at
`fields`, if there is one. -/
def rdataName (packet : List UInt8) (fields : ℕ) : Option ℕ :=
  let rtype := be16At packet fields
  let rdlength := (be16At packet (fields + 8)).toNat
  if be16At packet (fields + 2) ≠ classIn ∨ rtype = dnsTypeOpt then none
  else if rtype = typeCname ∨ rtype = typeNs ∨ rtype = typePtr then some (fields + 10)
  else if rtype = typeMx ∧ rdlength ≥ 2 then some (fields + 10 + 2)
  else if rtype = typeSrv ∧ rdlength ≥ 6 then some (fields + 10 + 6)
  else none

/-- The names in the data of the records from `offset` on, and the offset after these. -/
def recordNames (packet : List UInt8) : ℕ → ℕ → Outcome MsgError (List ℕ × ℕ)
  | 0, offset => return ([], offset)
  | count + 1, offset => do
    let (_, fields) ← Name.fromWire packet offset
    let (names, offset) ← recordNames packet count
      (fields + 10 + (be16At packet (fields + 8)).toNat)
    return ((rdataName packet fields).toList ++ names, offset)

/-- The names in the data of a reply's records, in order. -/
def rdataNames (packet : List UInt8) : Outcome MsgError (List ℕ) := do
  let (_, offset) ← Msg.unpackQuestions packet (be16At packet 4).toNat 12
  let (answers, offset) ← recordNames packet (be16At packet 6).toNat offset
  let (authorities, offset) ← recordNames packet (be16At packet 8).toNat offset
  let (additionals, _) ← recordNames packet (be16At packet 10).toNat offset
  return answers ++ (authorities ++ additionals)

/-- The loop over strings stays inside of the record. -/
theorem txtLoop_ok {stop : ℕ} (hstop : stop ≤ packet.length) :
    ∀ {fuel txtOffset : ℕ} {txtData : String},
    txtOffset ≤ stop → stop < txtOffset + fuel →
      ∃ text, txtLoop packet stop fuel txtOffset txtData = .ok text := by
  intro fuel
  induction fuel with
  | zero => intro txtOffset txtData h hf; omega
  | succ fuel ih =>
    intro txtOffset txtData h hf
    unfold txtLoop
    by_cases hlt : txtOffset < stop
    · rw [if_pos hlt, index_pos (by omega), ok_bind]
      by_cases hle : txtOffset + 1 + packet[txtOffset].toNat ≤ stop
      · simp only [if_pos hle]
        rw [slice_pos ⟨by omega, by omega⟩, ok_bind]
        exact ih hle (by omega)
      · exact ⟨txtData, by simp only [if_neg hle, pure_eq_ok]⟩
    · exact ⟨txtData, if_neg hlt⟩

theorem caaText_ok (base64 : List UInt8 → String) {rdlength : ℕ}
    (h : off + rdlength ≤ packet.length) :
    ∃ text, caaText base64 packet off rdlength = .ok text := by
  unfold caaText
  split
  · next h2 =>
    rw [index_pos (by omega), ok_bind, index_pos (by omega), ok_bind]
    split
    · next hle =>
      rw [slice_pos ⟨by omega, by omega⟩, ok_bind, slice_pos ⟨by omega, by omega⟩, ok_bind]
      exact ⟨_, rfl⟩
    · rw [slice_pos ⟨by omega, by omega⟩, ok_bind]
      exact ⟨_, rfl⟩
  · rw [slice_pos ⟨by omega, by omega⟩, ok_bind]
    exact ⟨_, rfl⟩

section

variable (base64 : List UInt8 → String)

/-- The text of data without a name to read. -/
theorem rdataText_ok {rtype : UInt16} {rdlength : ℕ} (h : off + rdlength ≤ packet.length)
    (hname : ¬ (rtype = typeCname ∨ rtype = typeNs ∨ rtype = typePtr))
      (hmx : ¬ (rtype = typeMx ∧ rdlength ≥ 2))
    (hsrv : ¬ (rtype = typeSrv ∧ rdlength ≥ 6)) :
    ∃ text, ∀ fuel, rdataText base64 fuel packet rtype off rdlength = .ok text := by
  simp only [rdataText, if_neg hname, if_neg hmx, if_neg hsrv]
  split
  · next ha =>
    rw [index_pos (by omega), ok_bind, index_pos (by omega), ok_bind, index_pos (by omega), ok_bind,
      index_pos (by omega), ok_bind]
    exact ⟨_, fun _ => rfl⟩
  · split
    · next ha =>
      rw [slice_pos ⟨by omega, by omega⟩, ok_bind]
      exact ⟨_, fun _ => rfl⟩
    · split
      · obtain ⟨text, ht⟩ : ∃ text, txtLoop packet (off + rdlength)
          (rdlength + 1) off "" = .ok text :=
          txtLoop_ok h (by omega) (by omega)
        exact ⟨text, fun _ => ht⟩
      · split
        · exact ⟨_, fun _ => rfl⟩
        · split
          · obtain ⟨text, ht⟩ := caaText_ok base64 h
            exact ⟨text, fun _ => ht⟩
          · rw [slice_pos ⟨by omega, by omega⟩, ok_bind]
            exact ⟨_, fun _ => rfl⟩

/-- Reading one name and making text of it. -/
theorem reads_nameText {α : Type} (o : ℕ) (f : String → α) :
    Reads packet [o] (fun fuel => do
      let (domain, _) ← parseName fuel packet o
      return f domain) fun _ => True :=
  (reads_parseName packet o).map (fun r => f r.1) fun _ _ => trivial

/-- The text of data with a name in it is made of that name. -/
theorem rdataText_of_rdataName {fields start : ℕ}
    (h : fields + 10 + (be16At packet (fields + 8)).toNat ≤ packet.length)
    (hstart : rdataName packet fields = some start) :
    ∃ f : String → String, ∀ fuel, rdataText base64 fuel packet (be16At packet fields)
      (fields + 10) (be16At packet (fields + 8)).toNat = (do
        let (domain, _) ← parseName fuel packet start
        return f domain) := by
  generalize hrd : (be16At packet (fields + 8)).toNat = rdlength at h
  generalize ht : be16At packet fields = rtype
  simp only [rdataName, ht, hrd] at hstart
  split at hstart
  · cases hstart
  by_cases hname : rtype = typeCname ∨ rtype = typeNs ∨ rtype = typePtr
  · have ha : ¬ (rtype = typeA ∧ rdlength = 4) := by rintro ⟨rfl, -⟩; revert hname; decide
    have haaaa : ¬ (rtype = typeAaaa ∧ rdlength = 16) := by rintro ⟨rfl, -⟩; revert hname; decide
    rw [if_pos hname, Option.some.injEq] at hstart
    subst hstart
    refine ⟨fun domain => domain, fun fuel => ?_⟩
    simp only [rdataText, if_neg ha, if_neg haaaa, if_pos hname]
  by_cases hmx : rtype = typeMx ∧ rdlength ≥ 2
  · have ha : ¬ (rtype = typeA ∧ rdlength = 4) := by rintro ⟨rfl, -⟩; exact absurd hmx.1 (by decide)
    have haaaa : ¬ (rtype = typeAaaa ∧ rdlength = 16) := by
      rintro ⟨rfl, -⟩; exact absurd hmx.1 (by decide)
    rw [if_neg hname, if_pos hmx, Option.some.injEq] at hstart
    subst hstart
    refine ⟨fun exchange => toString (be16At packet (fields + 10)).toNat ++ " " ++ exchange,
      fun fuel => ?_⟩
    simp only [rdataText, if_neg ha, if_neg haaaa, if_neg hname, if_pos hmx,
      readU16_pos (show fields + 10 + 2 ≤ packet.length by omega), ok_bind]
  rw [if_neg hname, if_neg hmx, Option.ite_none_right_eq_some] at hstart
  obtain ⟨hsrv, hstart⟩ := hstart
  obtain rfl := Option.some.inj hstart
  have ha : ¬ (rtype = typeA ∧ rdlength = 4) := by
    rintro ⟨rfl, -⟩; exact absurd hsrv.1 (by decide)
  have haaaa : ¬ (rtype = typeAaaa ∧ rdlength = 16) := by
    rintro ⟨rfl, -⟩; exact absurd hsrv.1 (by decide)
  have htxt : ¬ rtype = typeTxt := by rintro rfl; exact absurd hsrv.1 (by decide)
  have hsoa : ¬ rtype = typeSoa := by rintro rfl; exact absurd hsrv.1 (by decide)
  refine ⟨fun target => toString (be16At packet (fields + 10)).toNat ++ " " ++
    toString (be16At packet (fields + 10 + 2)).toNat ++ " " ++
    toString (be16At packet (fields + 10 + 4)).toNat ++ " " ++ target, fun fuel => ?_⟩
  simp only [rdataText, if_neg ha, if_neg haaaa, if_neg hname, if_neg hmx, if_neg htxt,
    if_neg hsoa, if_pos hsrv,
    readU16_pos (show fields + 10 + 2 ≤ packet.length by omega),
    readU16_pos (show fields + 10 + 2 + 2 ≤ packet.length by omega),
    readU16_pos (show fields + 10 + 4 + 2 ≤ packet.length by omega), ok_bind]

/-- **The data of a record** has the name that `rdataName` tells. -/
theorem reads_rdataText {fields : ℕ}
    (h : fields + 10 + (be16At packet (fields + 8)).toNat ≤ packet.length)
    (hin : ¬ (be16At packet (fields + 2) ≠ classIn ∨ be16At packet fields = dnsTypeOpt)) :
    Reads packet (rdataName packet fields).toList (fun fuel =>
      rdataText base64 fuel packet (be16At packet fields)
      (fields + 10) (be16At packet (fields + 8)).toNat) fun _ => True := by
  cases hstart : rdataName packet fields with
  | some start =>
    obtain ⟨f, hf⟩ := rdataText_of_rdataName base64 h hstart
    simp only [hf]
    exact reads_nameText start f
  | none =>
    simp only [rdataName, if_neg hin] at hstart
    split at hstart
    · cases hstart
    next hname =>
    split at hstart
    · cases hstart
    next hmx =>
    split at hstart
    · cases hstart
    next hsrv =>
    obtain ⟨text, htext⟩ := rdataText_ok base64 h hname hmx hsrv
    simp only [htext]
    exact Reads.of_settles (settles_const (by simp)) trivial

/-- **A record** whose owner name the upstream layer's parser has read. -/
theorem reads_parseRr {name : Name} {fields : ℕ}
    (hn : Name.fromWire packet off = .ok (name, fields))
    (h : fields + 10 + (be16At packet (fields + 8)).toNat ≤ packet.length) :
    Reads packet (rdataName packet fields).toList (fun fuel => parseRr base64 fuel packet off)
      fun r => r.2 = fields + 10 + (be16At packet (fields + 8)).toNat := by
  refine (reads_of_fromWire hn).bind fun r hr => ?_
  obtain ⟨owner, e⟩ := r
  dsimp only at hr ⊢
  subst hr
  simp only [ensure_pos (show e + 10 ≤ packet.length by omega),
    readU16_pos (show e + 2 ≤ packet.length by omega),
    readU16_pos (show e + 2 + 2 ≤ packet.length by omega),
      readU32_pos (show e + 4 + 4 ≤ packet.length by omega),
    readU16_pos (show e + 8 + 2 ≤ packet.length by omega), ok_bind, ensure_pos h]
  by_cases hin : be16At packet (e + 2) ≠ classIn ∨ be16At packet e = dnsTypeOpt
  · simp only [rdataName, if_pos hin]
    exact Reads.of_settles (settles_const (by simp)) rfl
  · simp only [if_neg hin]
    exact (reads_rdataText base64 h hin).map (R := fun r =>
      r.2 = e + 10 + (be16At packet (e + 8)).toNat)
      (fun data => (some (⟨owner, be16At packet e, be32At packet (e + 4), data⟩ : DnsAnswer),
        e + 10 + (be16At packet (e + 8)).toNat)) fun _ _ => rfl

/-- **The records of a section.** -/
theorem reads_parseRrs : ∀ {n off stop : ℕ} {rs : List ResourceRecord},
    unpackRrSection packet n off = .ok (rs, stop) →
      ∃ names, recordNames packet n off = .ok (names, stop) ∧
      Reads packet names (fun fuel => parseRrs base64 fuel packet n off) fun r => r.2 = stop := by
  intro n
  induction n with
  | zero =>
    intro off stop rs h
    simp only [unpackRrSection, pure_eq_ok, Outcome.ok.injEq, Prod.mk.injEq] at h
    obtain ⟨-, rfl⟩ := h
    exact ⟨[], rfl, Reads.of_settles (settles_const (by simp)) rfl⟩
  | succ n ih =>
    intro off stop rs h
    simp only [unpackRrSection, unpackRr, bind_eq_ok, Prod.exists, ensure_eq_ok,
      readU16_eq_ok, pure_eq_ok,
      Outcome.ok.injEq, Prod.mk.injEq] at h
    obtain ⟨_, next, ⟨name, fields, hn, _, hten, _, ⟨-, rfl⟩, _, ⟨-, rfl⟩, _, -, _,
      ⟨-, rfl⟩, _, hrd, _, -, -, rfl⟩,
      rs, stop, hrs, -, rfl⟩ := h
    obtain ⟨names, hnames, hreads⟩ := ih hrs
    refine ⟨(rdataName packet fields).toList ++ names, ?_, ?_⟩
    · simp only [recordNames, hn, ok_bind, hnames, pure_eq_ok]
    · refine (reads_parseRr base64 hn (by omega)).bind fun r hr => ?_
      obtain ⟨record, next⟩ := r
      dsimp only at hr ⊢
      subst hr
      exact hreads.map (fun r => (record.toList ++ r.1, r.2)) fun _ hr => hr

/-- The questions, whose names the upstream layer's parser has read. -/
theorem reads_parseQuestions : ∀ {n off stop : ℕ} {qs : List Upstream.Question},
    Msg.unpackQuestions packet n off = .ok (qs, stop) →
      Reads packet [] (fun fuel => parseQuestions fuel packet n off) fun r => r.2 = stop := by
  intro n
  induction n with
  | zero =>
    intro off stop qs h
    simp only [Msg.unpackQuestions, pure_eq_ok, Outcome.ok.injEq, Prod.mk.injEq] at h
    exact Reads.of_settles (settles_const (by simp)) h.2
  | succ n ih =>
    intro off stop qs h
    obtain ⟨name, next, qs, hn, -, hfour, hqs, rfl⟩ := Msg.unpackQuestions_succ h
    refine (reads_of_fromWire hn).bind fun r hr => ?_
    obtain ⟨owner, e⟩ := r
    dsimp only at hr ⊢
    subst hr
    simp only [ensure_pos hfour, readU16_pos (show e + 2 ≤ packet.length by omega), ok_bind]
    exact (ih hqs).map (R := fun r => r.2 = stop) (fun r =>
      (⟨owner, be16At packet e⟩ :: r.1, r.2)) fun _ hr => hr

/-- **The whole reply.** -/
theorem reads_parseDnsToJson {m : Msg} (h : Msg.unpack packet = .ok m) :
    ∃ names, rdataNames packet = .ok names ∧
      Reads packet names (fun fuel => parseDnsToJson base64 fuel packet) fun _ => True := by
  simp only [Msg.unpack, bind_eq_ok, Prod.exists, ensure_eq_ok, readU16_eq_ok,
    Upstream.dnsHeaderSize] at h
  obtain ⟨_, hlen, _, ⟨-, rfl⟩, _, ⟨-, rfl⟩, _, ⟨-, rfl⟩, _, ⟨-, rfl⟩, _, ⟨-, rfl⟩, _,
    ⟨-, rfl⟩, qs, offset, hqs,
    _, offset₁, h₁, _, offset₂, h₂, _, offset₃, h₃, -⟩ := h
  obtain ⟨names₁, hn₁, hr₁⟩ := reads_parseRrs base64 h₁
  obtain ⟨names₂, hn₂, hr₂⟩ := reads_parseRrs base64 h₂
  obtain ⟨names₃, hn₃, hr₃⟩ := reads_parseRrs base64 h₃
  refine ⟨names₁ ++ (names₂ ++ names₃), ?_, ?_⟩
  · simp only [rdataNames, hqs, ok_bind, hn₁, hn₂, hn₃, pure_eq_ok]
  have h12 : packet.length ≥ 12 := by omega
  have hrcode : rcode packet = .ok (packet[3] &&& 0x0f) := by
    simp only [rcode, index_pos (show 3 < packet.length by omega), ok_bind, pure_eq_ok]
  simp only [parseDnsToJson, ensure_pos h12, ok_bind, qdcount, ancount, arcount,
    readU16_pos (show 2 + 2 ≤ packet.length by omega),
      readU16_pos (show 4 + 2 ≤ packet.length by omega),
    readU16_pos (show 6 + 2 ≤ packet.length by omega),
      readU16_pos (show 8 + 2 ≤ packet.length by omega),
    readU16_pos (show 10 + 2 ≤ packet.length by omega), hrcode]
  refine (reads_parseQuestions hqs).bind fun r hr => ?_
  obtain ⟨questions, o⟩ := r
  dsimp only at hr ⊢
  subst hr
  refine hr₁.bind fun r hr => ?_
  obtain ⟨answers, o₁⟩ := r
  dsimp only at hr ⊢
  subst hr
  refine hr₂.bind fun r hr => ?_
  obtain ⟨authority, o₂⟩ := r
  dsimp only at hr ⊢
  subst hr
  exact hr₃.map (fun r => _) fun _ _ => trivial

/-- No name loops that is read before one has failed. -/
def NamesEnd (packet : List UInt8) (names : List ℕ) : Prop :=
  ∀ before off after, names = before ++ off :: after → (∀ o ∈ before, ¬ NameFails packet o) →
    ¬ NameLoops packet off

theorem namesEnd_iff (names : List ℕ) : NamesEnd packet names ↔
    ¬ FirstUnread packet (NameLoops packet) names := by
  constructor
  · rintro hend ⟨before, off, after, heq, hread, hloops⟩
    exact hend before off after heq (fun o ho => (hread o ho).2) hloops
  · intro hno before off after heq hnofail hloops
    rcases read_cases packet names with hall | h | ⟨before', off', after', heq', hread, hfails⟩
    · exact (hall off (by simp [heq])).1 hloops
    · exact hno h
    · -- the first that fails comes before the one that loops
      rw [heq] at heq'
      rcases List.append_eq_append_iff.mp heq' with ⟨mid, rfl, hmid⟩ | ⟨mid, rfl, hmid⟩
      · cases mid with
        | nil =>
          rw [List.nil_append, List.cons.injEq] at hmid
          exact hfails.not_loops (hmid.1 ▸ hloops)
        | cons b mid =>
          rw [List.cons_append, List.cons.injEq] at hmid
          exact (hread off (by simp [hmid.1])).1 hloops
      · cases mid with
        | nil =>
          rw [List.nil_append, List.cons.injEq] at hmid
          exact hfails.not_loops (hmid.1 ▸ hloops)
        | cons b mid =>
          rw [List.cons_append, List.cons.injEq] at hmid
          exact hnofail off' (by simp [hmid.1]) hfails

/-- **When the JSON answer comes**: for a reply the upstream layer accepts, exactly when none of
the names in its records' data loops, up to the first that fails. -/
theorem parseDnsToJson_ends_iff (packet : List UInt8) (m : Msg) (h : Msg.unpack packet = .ok m) :
    ∃ names, rdataNames packet = .ok names ∧
      ((∃ fuel, (parseDnsToJson base64 fuel packet).Finished) ↔ NamesEnd packet names) := by
  obtain ⟨names, hnames, hreads⟩ := reads_parseDnsToJson base64 h
  refine ⟨names, hnames, ?_⟩
  rw [namesEnd_iff]
  constructor
  · exact fun hends hloops => (hreads.loops hloops).not_ends hends
  · intro hno
    rcases read_cases packet names with hall | hloops | hfails
    · obtain ⟨r, -, hr⟩ := hreads.read hall
      exact hr.ends trivial
    · exact absurd hloops hno
    · obtain ⟨e, he⟩ := hreads.fails hfails
      exact he.ends trivial

end

/-- A reply with one alias record, whose data is the two given bytes. -/
def aliasReply (high low : UInt8) : List UInt8 :=
  [0, 0, 0x81, 0x80, 0, 1, 0, 1, 0, 0, 0, 0] ++ ([0, 0, 5, 0, 1] ++
    ([0, 0, 5, 0, 1, 0, 0, 0, 0, 0, 2] ++ [high, low]))

/-- The answer comes when the alias points to the name in the question. -/
theorem parseDnsToJson_ends_iff_alias : ∃ fuel,
    (parseDnsToJson (fun _ => "") fuel (aliasReply 0xc0 12)).Finished := by
  obtain ⟨names, hnames, hends⟩ := parseDnsToJson_ends_iff (fun _ => "") (aliasReply 0xc0 12) _ rfl
  have h28 : rdataNames (aliasReply 0xc0 12) = .ok [28] := by decide +kernel
  rw [h28, Outcome.ok.injEq] at hnames
  refine hends.mpr fun before off after heq _ => ?_
  have hmem : off ∈ names := by simp [heq]
  rw [← hnames, List.mem_singleton] at hmem
  subst hmem
  exact (stops_iff_not_comesBack fun _ _ => nameHop_lt).mp ⟨2, by decide +kernel⟩

/-- **A pointer to itself is followed for ever**: the upstream layer accepts the reply, and no
amount of fuel is enough for its JSON answer. -/
theorem self_pointer_never_ends :
    ∃ packet m, Msg.unpack packet = .ok m ∧
      ∀ base64 fuel, parseDnsToJson base64 fuel packet = .timeout := by
  refine ⟨aliasReply 0xc0 28, _, rfl, fun base64 => ?_⟩
  obtain ⟨names, hnames, hreads⟩ := reads_parseDnsToJson base64
    (show Msg.unpack (aliasReply 0xc0 28) = .ok _ from rfl)
  have h28 : rdataNames (aliasReply 0xc0 28) = .ok [28] := by decide +kernel
  rw [h28, Outcome.ok.injEq] at hnames
  subst hnames
  refine hreads.loops ⟨[], 28, [], rfl, by simp [AllRead], 0, 1, 28, Nat.zero_lt_one, rfl, ?_⟩
  decide +kernel

end

end DohProxy.Json
