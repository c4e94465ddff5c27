import DohProxy.Dns.Ecs

/-!
# Where the search for the OPT record reads past the query

`add_ecs_to_packet` runs on whatever `set_edns_max_payload_size` left of a client's query,
also where that failed half way. Its own search for the OPT record reads the type after
a root byte, and the data length of an OPT record, without a check that they are there.

## The model

`CutOff` says what a query has to look like for one of those reads to miss: after its
question, its answers, its authorities and some additional records that are no OPT records
of the root, it ends inside of a record of the root, before the bytes that are read.

## What is proved

* `findOptRecord_finished_iff` — the search panics on exactly such records, and
  `addEcsToPacket_finished_iff` — so does `add_ecs_to_packet`, all its other reads and
  subtractions being checked.
* `WalkSpec` — what `set_edns_max_payload_size` does while it walks: it does not panic, and
  whatever it writes neither makes nor mends such an end.
* `addEcs_after_setEdns_finished_iff` — together they panic exactly when the query the
  client sent is cut off so.
-/

namespace DohProxy.Dns

open Lib Outcome Net

/-! ### Queries that are cut off -/

/-- The beginning of a record of the root that stops before its type ends, or that is an OPT
record and stops before its RDLENGTH ends. -/
def CutShort (bs : List UInt8) : Prop :=
  ∃ rest, bs = 0 :: rest ∧ (rest.length < 2 ∨ be16At rest 0 = dnsTypeOpt ∧ rest.length < 10)

/-- An OPT record as it should be: the root's. -/
def Record.IsRootOpt (r : Record) : Prop := r.name.bytes = [0] ∧ r.rtype = dnsTypeOpt

/-- After fewer than `n` records, none of them an OPT record of the root, stands one that is
cut short. -/
def EndsInRoot (n : ℕ) (bs : List UInt8) : Prop :=
  ∃ (before : List Record) (tail : List UInt8), bs = recordsBytes before ++ tail ∧
    before.length < n ∧
    (∀ r ∈ before, ¬ r.IsRootOpt) ∧ CutShort tail

/-- The additional section starts at `off`, after a question and as many records as the header
announces for the answer and the authority section. -/
def AdditionalAt (packet : Packet) (off : ℕ) : Prop :=
  ∃ (question : Question) (rs : List Record),
    rs.length = (be16At packet 6).toNat + (be16At packet 8).toNat ∧
    packet.drop 12 = question.bytes ++ (recordsBytes rs ++ packet.drop off) ∧
    off = 12 + (question.bytes.length + (recordsBytes rs).length)

/-- **The query is cut off** inside of an additional record of the root. -/
def CutOff (packet : Packet) : Prop :=
  packet.length ≤ 4096 ∧ be16At packet 4 = 1 ∧
    ∃ off, AdditionalAt packet off ∧ EndsInRoot (be16At packet 10).toNat (packet.drop off)

/-! ### The search -/

section

variable {packet packet' : Packet} {n off e : ℕ}

theorem CutShort.length_le {bs : List UInt8} (h : CutShort bs) : bs.length ≤ 10 := by
  obtain ⟨rest, rfl, h | ⟨-, h⟩⟩ := h
  · simp only [List.length_cons]; omega
  · simp only [List.length_cons]; omega

theorem not_endsInRoot_nil : ¬ EndsInRoot n [] := by
  rintro ⟨before, tail, h, -, -, rest, rfl, -⟩
  simp at h

theorem not_endsInRoot_zero {bs : List UInt8} : ¬ EndsInRoot 0 bs := by
  rintro ⟨before, tail, -, h, -⟩
  exact absurd h (Nat.not_lt_zero _)

/-- A name of one byte is the root's, and so is one that begins with a zero. -/
theorem IsName.eq_root_iff {nm : List UInt8} (h : IsName nm) :
    (nm = [0] ↔ nm.length = 1) ∧ (nm[0]? = some 0 ↔ nm.length = 1) := by
  obtain ⟨q, -, hq⟩ := h
  cases hq with
  | root => simp
  | @pointer h l hh =>
    have : h ≠ 0 := by rintro rfl; simp at hh
    simp [this]
  | @label len bs nm q hpos _ hbs hnm =>
    have : len ≠ 0 := by rintro rfl; simp at hpos
    have := hnm.ne_nil
    simp [*]

/-- The search, at the bytes of one record. -/
theorem endsInRoot_succ {bs : List UInt8} : EndsInRoot (n + 1) bs ↔
    CutShort bs ∨ ∃ (r : Record) (rest : List UInt8), bs = r.bytes ++ rest ∧ ¬ r.IsRootOpt ∧
      EndsInRoot n rest := by
  constructor
  · rintro ⟨before, tail, rfl, hn, hno, hcut⟩
    cases before with
    | nil => exact .inl hcut
    | cons r rs =>
      refine .inr ⟨r, recordsBytes rs ++ tail, by simp, hno r (by simp), rs, tail,
        rfl, ?_, ?_, hcut⟩
      · simpa using hn
      · exact fun r' hr' => hno r' (by simp [hr'])
  · rintro (hcut | ⟨r, rest, rfl, hr, before, tail, rfl, hn, hno, hcut⟩)
    · exact ⟨[], bs, rfl, Nat.succ_pos n, by simp, hcut⟩
    · refine ⟨r :: before, tail, by simp, by simpa using hn, ?_, hcut⟩
      rintro r' (_ | ⟨_, hr'⟩)
      · exact hr
      · exact hno r' hr'

/-- Where no record stands, the bytes themselves must be cut short. -/
theorem endsInRoot_succ_of_no_record (h : ∀ (r : Record) rest, packet.drop off ≠ r.bytes ++ rest) :
    EndsInRoot (n + 1) (packet.drop off) ↔ CutShort (packet.drop off) := by
  rw [endsInRoot_succ]
  constructor
  · rintro (hcut | ⟨r, rest, hd, -⟩)
    · exact hcut
    · exact absurd hd (h r rest)
  · exact .inl

/-- **Where a name and ten bytes stand**, the search goes on if they are not an OPT record's of
the root and the record is inside the packet. -/
theorem endsInRoot_succ_of_skipName (he : skipName packet off = .ok e)
    (hten : e + 10 ≤ packet.length) :
    EndsInRoot (n + 1) (packet.drop off) ↔ ¬ (e = off + 1 ∧ be16At packet e = dnsTypeOpt) ∧
      EndsInRoot n (packet.drop (e + (10 + (be16At packet (e + 8)).toNat))) := by
  obtain ⟨nm, hnm, hd, hlen, -⟩ := skipName_sound he
  have hpos := hnm.length_pos
  have hcut : ¬ CutShort (packet.drop off) := by
    intro h
    have := h.length_le
    rw [List.length_drop] at this
    omega
  rw [← Nat.add_assoc]
  by_cases hend : e + 10 + (be16At packet (e + 8)).toNat ≤ packet.length
  · obtain ⟨r, hd, hnext, hname, htype⟩ := exists_record he hend
    have hroot : r.IsRootOpt ↔ e = off + 1 ∧ be16At packet e = dnsTypeOpt := by
      rw [Record.IsRootOpt, r.name.valid.eq_root_iff.1, htype]
      exact and_congr_left fun _ => by omega
    rw [endsInRoot_succ, ← hroot]
    constructor
    · rintro (h | ⟨r', rest, hd', hr', h⟩)
      · exact absurd h hcut
      · -- the record is the one that stands there
        have hr := cutRecord_complete hd
        rw [cutRecord_complete hd', Outcome.ok.injEq, Prod.mk.injEq] at hr
        obtain ⟨rfl, -⟩ := hr
        rw [hd, List.append_cancel_left_eq] at hd'
        exact ⟨hr', hd' ▸ h⟩
    · rintro ⟨hr, h⟩
      exact .inr ⟨r, _, hd, hr, h⟩
  · have hpast : packet.drop (e + 10 + (be16At packet (e + 8)).toNat) = [] :=
      List.drop_eq_nil_of_le (by omega)
    rw [endsInRoot_succ_of_no_record, hpast]
    · exact iff_of_false hcut fun h => not_endsInRoot_nil h.2
    · intro r rest hd
      obtain ⟨hs, hrd, -, hle⟩ := skipName_record hd
      rw [he, Outcome.ok.injEq] at hs
      rw [r.length_bytes] at hle
      rw [hs] at hend
      omega

/-- The reads of `rootOpt` miss where the bytes are cut short. -/
theorem rootOpt_eq_panic_iff : rootOpt packet off = .panic ↔ CutShort (packet.drop off) := by
  unfold rootOpt
  split
  · next hz =>
    have hd := drop_of_getElem? hz
    have hlen : (packet.drop (off + 1)).length = packet.length - (off + 1) := List.length_drop
    have hlt := (List.getElem?_eq_some_iff.mp hz).1
    have hcut : CutShort (packet.drop off) ↔ ¬ off + 1 + 2 ≤ packet.length ∨
        be16At packet (off + 1) = dnsTypeOpt ∧ ¬ off + 9 + 2 ≤ packet.length := by
      constructor
      · rintro ⟨rest, h, hrest⟩
        rw [hd, List.cons.injEq] at h
        rw [← h.2, be16At_drop, hlen] at hrest
        exact hrest.imp (by omega) (And.imp_right (by omega))
      · intro h
        refine ⟨_, hd, ?_⟩
        rw [be16At_drop, hlen]
        exact h.imp (by omega) (And.imp_right (by omega))
    rw [hcut]
    by_cases h3 : off + 1 + 2 ≤ packet.length
    · rw [readU16_pos h3, ok_bind]
      split
      · next ht =>
        by_cases h11 : off + 9 + 2 ≤ packet.length
        · simp [h3, h11]
        · simp [h11, ht]
      · next ht => simp [h3, ht]
    · simp [h3]
  · next hz =>
    refine iff_of_false (by simp) ?_
    rintro ⟨rest, h, -⟩
    apply hz
    rw [← Nat.add_zero off, ← List.getElem?_drop, h, List.getElem?_cons_zero]

/-- It returns or panics. -/
theorem rootOpt_eq_ok_or_panic (packet : Packet) (off : ℕ) :
    (∃ info, rootOpt packet off = .ok info) ∨ rootOpt packet off = .panic := by
  simp only [rootOpt, readU16]
  split
  · split
    · rw [ok_bind]
      split
      · split
        · exact .inl ⟨_, rfl⟩
        · exact .inr rfl
      · exact .inl ⟨_, rfl⟩
    · exact .inr rfl
  · exact .inl ⟨_, rfl⟩

/-- After a name with ten bytes it tells whether they are an OPT record's of the root. -/
theorem rootOpt_of_skipName (he : skipName packet off = .ok e) (hten : e + 10 ≤ packet.length) :
    ∃ info, rootOpt packet off = .ok info ∧
      (info = none ↔ ¬ (e = off + 1 ∧ be16At packet e = dnsTypeOpt)) := by
  obtain ⟨nm, hnm, hd, rfl, -⟩ := skipName_sound he
  have hpos := hnm.length_pos
  have hroot : packet[off]? = some 0 ↔ off + nm.length = off + 1 := by
    rw [← Nat.add_zero off, ← List.getElem?_drop, hd, List.getElem?_append_left hpos,
      hnm.eq_root_iff.2]
    omega
  unfold rootOpt
  by_cases hlen : off + nm.length = off + 1
  · rw [if_pos (hroot.mpr hlen), readU16_pos (by omega), ok_bind, hlen]
    split
    · next ht =>
      refine ⟨some (off + 9, (be16At packet (off + 9)).toNat), ?_, by simp [ht]⟩
      simp only [readU16_pos (show off + 9 + 2 ≤ packet.length by omega), ok_bind, pure_eq_ok]
    · next ht => exact ⟨none, rfl, by simp [ht]⟩
  · exact ⟨none, if_neg (mt hroot.mp hlen), iff_of_true rfl fun h => hlen h.1⟩

/-- **The search panics on exactly the packets cut off where it looks.** -/
theorem findOptRecord_finished_iff (hp : packet ≠ []) : ∀ {n off : ℕ},
    (findOptRecord packet n off).Finished ↔ ¬ EndsInRoot n (packet.drop off) := by
  intro n
  induction n with
  | zero => intro off; simp [findOptRecord, not_endsInRoot_zero]
  | succ n ih =>
    intro off
    have hstop : (∀ e, skipName packet off = .ok e → packet.length < e + 10) →
        ((findOptRecord packet (n + 1) off).Finished ↔ ¬ EndsInRoot (n + 1) (packet.drop off)) := by
      intro hno
      rw [endsInRoot_succ_of_no_record, ← rootOpt_eq_panic_iff, findOptRecord]
      · rcases rootOpt_eq_ok_or_panic packet off with ⟨info, hinfo⟩ | hpanic
        · rw [hinfo, ok_bind]
          cases info with
          | some info => simp
          | none =>
            have hs := skipName_safe hp off
            cases he : skipName packet off with
            | ok e => simp [hno e he]
            | err => simp
            | panic => rw [he] at hs; exact hs.elim
            | timeout => rw [he] at hs; exact hs.elim
        · simp [hpanic]
      · intro r rest hd
        obtain ⟨hs, -, -, hle⟩ := skipName_record hd
        have := hno _ hs
        rw [r.length_bytes] at hle
        omega
    cases he : skipName packet off with
    | ok e =>
      by_cases hten : e + 10 ≤ packet.length
      · obtain ⟨info, hinfo, hnone⟩ := rootOpt_of_skipName he hten
        rw [endsInRoot_succ_of_skipName he hten, ← hnone, not_and, ← ih, findOptRecord,
          hinfo, ok_bind]
        cases info with
        | some info => simp
        | none => simp [he, hten]
      · exact hstop fun e' he' => by rw [he, Outcome.ok.injEq] at he'; omega
    | err => exact hstop fun e' he' => by simp [he] at he'
    | panic => exact hstop fun e' he' => by simp [he] at he'
    | timeout => exact hstop fun e' he' => by simp [he] at he'

/-! ### The walk before it, and the look for an option after it -/

theorem AdditionalAt.le_length (h : AdditionalAt packet off) : 17 ≤ off ∧ off ≤ packet.length := by
  obtain ⟨question, rs, -, hd, rfl⟩ := h
  have hpos := question.name.valid.length_pos
  have hlen := congrArg List.length hd
  simp only [List.length_append, List.length_drop, Question.bytes, length_u16Bytes] at hlen ⊢
  omega

/-- The header and what stands before the additional section say where it starts. -/
theorem AdditionalAt.congr (h : AdditionalAt packet off)
    (htake : packet'.take off = packet.take off) :
    AdditionalAt packet' off := by
  obtain ⟨hle, -⟩ := h.le_length
  obtain ⟨question, rs, hn, hd, hoff⟩ := h
  refine ⟨question, rs, ?_, ?_, hoff⟩
  · rw [hn, be16At_congr htake (by omega), be16At_congr htake (by omega)]
  · rw [← List.append_assoc] at hd ⊢
    exact drop_of_take_eq htake (by omega) hd

/-- **What both rewriters walk over** to the additional section. -/
theorem walk_eq_ok_iff :
    (∃ e, skipName packet 12 = .ok e ∧ 4 ≤ packet.length - e ∧ e ≤ packet.length ∧
      traverseRrs packet (fun _ _ => .ok ())
        ((be16At packet 6).toNat + (be16At packet 8).toNat) (e + 4) () =
        .ok (off, ())) ↔ AdditionalAt packet off := by
  constructor
  · rintro ⟨e, he, hfour, hle, ht⟩
    obtain ⟨nm, hnm, hd, rfl, -⟩ := skipName_sound he
    obtain ⟨rs, hn, hd', rfl, -⟩ := traverseRrs_sound (by omega) ht
    refine ⟨⟨⟨nm, hnm⟩, be16At packet (12 + nm.length), be16At packet (12 + nm.length + 2)⟩,
      rs, hn, ?_, ?_⟩
    · rw [hd, drop_eq_u16Bytes (by omega),
        drop_eq_u16Bytes (show 12 + nm.length + 2 + 2 ≤ _ by omega), ← hd']
      simp only [Question.bytes, List.append_assoc]
    · simp only [Question.bytes, List.length_append, length_u16Bytes]; omega
  · rintro ⟨question, rs, hn, hd, rfl⟩
    have hd' := hd
    rw [Question.bytes, List.append_assoc] at hd'
    have hl := length_of_drop hd' (by simp [u16Bytes])
    have hr := drop_of_drop _ hd
    simp only [List.length_append, length_u16Bytes, Question.bytes] at hl hr
    refine ⟨_, skipName_complete question.name.valid hd'
      (by simp [u16Bytes]), by omega, by omega, ?_⟩
    have ht := traverseRrs_records (fun _ _ => .ok ()) (s := ()) hr
    rw [foldOffsets_unit, hn] at ht
    simp only [Nat.reduceAdd, ← Nat.add_assoc, ok_bind] at ht
    simp only [Question.bytes, List.length_append, length_u16Bytes, ← Nat.add_assoc]
    exact ht

theorem AdditionalAt.unique {off' : ℕ} (h : AdditionalAt packet off)
    (h' : AdditionalAt packet off') :
    off = off' := by
  obtain ⟨e, he, -, -, ht⟩ := walk_eq_ok_iff.mpr h
  obtain ⟨e', he', -, -, ht'⟩ := walk_eq_ok_iff.mpr h'
  rw [he, Outcome.ok.injEq] at he'
  subst he'
  rw [ht] at ht'
  exact congrArg Prod.fst (Outcome.ok.inj ht')

theorem additionalOffset_eq_ok_iff : additionalOffset packet = .ok off ↔
    packet.length ≤ 4096 ∧ be16At packet 4 = 1 ∧ AdditionalAt packet off := by
  simp only [additionalOffset, bind_eq_ok, ensure_eq_ok, usub_eq_ok, assert_eq_ok,
    readU16_eq_ok, qdcount, ancount,
    nscount, pure_eq_ok, Outcome.ok.injEq, Prod.exists, ← walk_eq_ok_iff,
      dnsOffsetQuestion, dnsHeaderSize,
    dnsMaxPacketSize]
  constructor
  · rintro ⟨_, hlen, _, hmax, _, ⟨-, rfl⟩, _, hqd, e, he, _, -, _, ⟨hle, rfl⟩, _, hfour,
      _, ⟨-, rfl⟩, _, ⟨-, rfl⟩,
      _, _, ht, rfl⟩
    exact ⟨hmax, hqd, e, he, hfour, hle, ht⟩
  · rintro ⟨hmax, hqd, e, he, hfour, hle, ht⟩
    have := skipName_sound he
    obtain ⟨nm, hnm, -, rfl, -⟩ := this
    have := hnm.length_pos
    exact ⟨(), by omega, (), hmax, _, ⟨by omega, rfl⟩, (), hqd, _, he, (), by omega, _,
      ⟨hle, rfl⟩, (), hfour, _,
      ⟨by omega, rfl⟩, _, ⟨by omega, rfl⟩, _, _, ht, rfl⟩

theorem ecsAdditional_eq_ok_iff {arcount : UInt16} : ecsAdditional packet = .ok (off, arcount) ↔
    packet.length ≤ 4096 ∧ be16At packet 4 = 1 ∧ AdditionalAt packet off ∧
      be16At packet 10 = arcount ∧
      0 < arcount := by
  simp only [ecsAdditional, bind_eq_ok, ensure_eq_ok, usub_eq_ok, readU16_eq_ok,
    qdcount, ancount, Dns.arcount,
    pure_eq_ok, Outcome.ok.injEq, Prod.exists, Prod.mk.injEq, ← walk_eq_ok_iff]
  constructor
  · rintro ⟨_, hlen, _, hmax, _, ⟨-, rfl⟩, _, hqd, e, he, _, ⟨hle, rfl⟩, _, hfour, _,
      ⟨-, rfl⟩, _, ⟨-, rfl⟩, _,
      ⟨-, rfl⟩, _, hpos, _, _, ht, rfl, rfl⟩
    exact ⟨hmax, hqd, ⟨e, he, hfour, hle, ht⟩, rfl, hpos⟩
  · rintro ⟨hmax, hqd, ⟨e, he, hfour, hle, ht⟩, rfl, hpos⟩
    have := skipName_sound he
    obtain ⟨nm, hnm, -, rfl, -⟩ := this
    have := hnm.length_pos
    exact ⟨(), by omega, (), hmax, _, ⟨by omega, rfl⟩, (), hqd, _, he, _, ⟨hle, rfl⟩, (), hfour, _,
      ⟨by omega, rfl⟩, _, ⟨by omega, rfl⟩, _, ⟨by omega, rfl⟩, (), hpos, _, _, ht, rfl, rfl⟩

/-- The walk to the additional section ends. -/
theorem walk_safe {rrcount : ℕ} (hp : packet ≠ []) (hle : e ≤ packet.length)
    (hfour : 4 ≤ packet.length - e) :
    Safe (fun _ => True) (traverseRrs packet (fun _ _ => .ok ()) rrcount (e + 4) ()) :=
  (traverseRrs_safe (fun _ _ _ => finished_ok ()) hp (by omega)).mono fun _ _ => trivial

/-- The checks of the header and the walk over the name of the question. -/
theorem safe_question {α : Type} {Q : α → Prop} {rest : ℕ → Outcome Error α}
    (h : 12 < packet.length → packet ≠ [] → ∀ e, 12 < e → e ≤ packet.length → Safe Q (rest e)) :
    Safe Q (do
      ensure (packet.length > dnsOffsetQuestion) "Short packet"
      ensure (packet.length ≤ dnsMaxPacketSize) "Large packet"
      ensure ((← qdcount packet) = 1) "No question"
      let offset ← skipName packet dnsOffsetQuestion
      assert (offset > dnsOffsetQuestion)
      rest offset) := by
  refine safe_ensure.bind fun _ _ hlen => safe_ensure.bind fun _ _ _ => ?_
  have hp : packet ≠ [] := by rintro rfl; simp at hlen
  simp only [dnsOffsetQuestion, dnsHeaderSize] at hlen ⊢
  rw [qdcount, readU16_pos (by omega), ok_bind]
  refine safe_ensure.bind fun _ _ _ => (skipName_safe hp 12).bind fun e _ he => ?_
  rw [assert_pos (by omega), ok_bind]
  exact h hlen hp e he.1 he.2

theorem additionalOffset_finished (packet : Packet) : (additionalOffset packet).Finished := by
  refine Safe.finished (Q := fun _ => True) (safe_question fun hlen hp e hlt hle => ?_)
  refine (safe_usub hle).bind fun room _ hroom => safe_ensure.bind fun _ _ hfour => ?_
  rw [ancount, nscount, readU16_pos (by omega), ok_bind, readU16_pos (by omega), ok_bind]
  exact (walk_safe hp hle (by omega)).bind fun _ _ _ => trivial

theorem ecsAdditional_finished (packet : Packet) : (ecsAdditional packet).Finished := by
  unfold ecsAdditional
  refine Safe.finished (Q := fun _ => True) ?_
  refine safe_ensure.bind fun _ _ hlen => safe_ensure.bind fun _ _ _ => ?_
  have hp : packet ≠ [] := by rintro rfl; simp at hlen
  rw [qdcount, readU16_pos (by omega), ok_bind]
  refine safe_ensure.bind fun _ _ _ => (skipName_safe hp 12).bind fun e _ he => ?_
  refine (safe_usub he.2).bind fun room _ hroom => safe_ensure.bind fun _ _ hfour => ?_
  rw [ancount, arcount, readU16_pos (by omega), ok_bind, readU16_pos (by omega), ok_bind,
    readU16_pos (by omega),
    ok_bind]
  refine safe_ensure.bind fun _ _ _ => ?_
  exact (walk_safe hp he.2 (by omega)).bind fun _ _ _ => trivial

/-- The look for an option ends, all its reads being checked. -/
theorem hasEcs_finished {rdataStart rdlength : ℕ} : ∀ {fuel rdataOffset : ℕ}, 0 < fuel →
    rdlength < rdataOffset + fuel → (hasEcs packet rdataStart rdlength fuel
      rdataOffset).Finished := by
  intro fuel
  induction fuel with
  | zero => intro rdataOffset h; omega
  | succ fuel ih =>
    intro rdataOffset _ h
    unfold hasEcs
    split
    · split
      · trivial
      · rw [readU16_pos (by omega), ok_bind, readU16_pos (by omega), ok_bind]
        split
        · trivial
        · split
          · trivial
          · exact ih (by omega) (by omega)
    · trivial

theorem ecsTarget_finished_iff (packet : Packet) : (ecsTarget packet).Finished ↔
    ¬ CutOff packet := by
  have hf := ecsAdditional_finished packet
  unfold ecsTarget
  cases ha : ecsAdditional packet with
  | ok r =>
    obtain ⟨off, arcount⟩ := r
    obtain ⟨hmax, hqd, hat, rfl, -⟩ := ecsAdditional_eq_ok_iff.mp ha
    have hp : packet ≠ [] := by rintro rfl; have := hat.le_length; simp at this; omega
    have hcut : CutOff packet ↔ EndsInRoot (be16At packet 10).toNat (packet.drop off) := by
      constructor
      · rintro ⟨-, -, off', hat', h⟩
        rwa [hat.unique hat']
      · exact fun h => ⟨hmax, hqd, off, hat, h⟩
    rw [hcut, ← findOptRecord_finished_iff hp]
    simp only [ok_bind]
    cases findOptRecord packet (be16At packet 10).toNat off with
    | ok info =>
      cases info with
      | none => simp
      | some info =>
        have hh : (hasEcs packet (info.1 + 2) info.2 (info.2 + 1) 0).Finished :=
          hasEcs_finished (by omega) (by omega)
        simp only [ok_bind]
        generalize hasEcs packet (info.1 + 2) info.2 (info.2 + 1) 0 = has at hh
        cases has with
        | ok has => cases has <;> simp
        | err => simp
        | panic => exact hh.elim
        | timeout => exact hh.elim
    | err => simp
    | panic => simp
    | timeout => simp
  | err =>
    -- with an additional record too few, or no walk to them, nothing is cut off
    simp only [err_bind, finished_err, true_iff]
    rintro ⟨hmax, hqd, off, hat, hends⟩
    have hpos : 0 < be16At packet 10 := by
      rw [UInt16.lt_iff_toNat_lt]
      exact Nat.pos_of_ne_zero fun h0 => not_endsInRoot_zero (h0 ▸ hends)
    have := ecsAdditional_eq_ok_iff.mpr ⟨hmax, hqd, hat, rfl, hpos⟩
    rw [ha] at this
    simp at this
  | panic => rw [ha] at hf; exact hf.elim
  | timeout => rw [ha] at hf; exact hf.elim

/-- **`add_ecs_to_packet` panics on exactly the packets that are cut off.** -/
theorem addEcsToPacket_finished_iff (clientIp : IpAddr) (prefixV4 prefixV6 : UInt8)
    (packet : Packet) :
    (addEcsToPacket clientIp prefixV4 prefixV6 packet).1.Finished ↔ ¬ CutOff packet := by
  rw [addEcsToPacket_eq, ← ecsTarget_finished_iff]
  cases ecsTarget packet with
  | ok target => cases target <;> simp
  | err => simp
  | panic => simp
  | timeout => simp

/-! ### What comes before: setting the payload size -/

theorem setPayload_apply (maxPayloadSize : UInt16) (set : Bool) (h : e + 10 ≤ packet.length) :
    setPayload maxPayloadSize e set packet =
      if be16At packet e = dnsTypeOpt then
        if set = false then (.ok true, setU16 packet (e + 2) maxPayloadSize)
        else (.err "Duplicate OPT RR found", packet)
      else (.ok set, packet) := by
  simp only [setPayload, Proc.bind_apply, Proc.reads_apply,
    readU16_pos (show e + 2 ≤ packet.length by omega),
    Proc.next_ok]
  split
  · cases set with
    | false =>
      simp only [Proc.bind_apply, Proc.lift_apply, ensure_true, Proc.next_ok,
        Proc.modifies_apply, if_true,
        writeU16_pos (show e + 2 + 2 ≤ packet.length by omega)]
      rfl
    | true => rfl
  · rfl

/-- Two packets with the same name at `off`, the same type and the same RDLENGTH after it, that
end alike after the record. -/
theorem endsInRoot_congr (he : skipName packet off = .ok e) (he' : skipName packet' off = .ok e)
    (hten : e + 10 ≤ packet.length) (hlen : packet'.length = packet.length)
    (htype : be16At packet' e = be16At packet e) (hrd : be16At packet' (e + 8) =
      be16At packet (e + 8))
    (h : EndsInRoot n (packet'.drop (e + (10 + (be16At packet (e + 8)).toNat))) ↔
      EndsInRoot n (packet.drop (e + (10 + (be16At packet (e + 8)).toNat)))) :
    EndsInRoot (n + 1) (packet'.drop off) ↔ EndsInRoot (n + 1) (packet.drop off) := by
  rw [endsInRoot_succ_of_skipName he' (by omega),
    endsInRoot_succ_of_skipName he hten, htype, hrd, h]

/-- What a walk over `n` additional records from `off` on makes of a packet, and its result. -/
structure WalkSpec (n off : ℕ) (set : Bool) (packet packet' : Packet)
    (x : Outcome Error (ℕ × Bool)) : Prop where
  /-- It does not panic. -/
  finished : x.Finished
  /-- The packet keeps its length. -/
  length : packet'.length = packet.length
  /-- The packet stays as it is up to where the walk starts. -/
  before : packet'.take off = packet.take off
  /-- Where the packet is cut off, it stays cut off, and nowhere else. -/
  ends : EndsInRoot n (packet'.drop off) ↔ EndsInRoot n (packet.drop off)
  /-- When no OPT record was met, the walk went over other records and changed nothing. -/
  unset : ∀ next, x = .ok (next, false) → set = false ∧ packet' = packet ∧
    ∃ rs : List Record, rs.length = n ∧
    packet.drop off = recordsBytes rs ++ packet.drop next

theorem WalkSpec.of_err {set : Bool} (msg : Error) : WalkSpec n off set packet packet (.err msg) :=
  ⟨trivial, rfl, rfl, Iff.rfl, by simp⟩

/-- Setting a class has not moved what the walk goes by. -/
theorem skipName_setClass (he : skipName packet off = .ok e)
    (hten : e + 10 ≤ packet.length) (v : UInt16) :
    skipName (setU16 packet (e + 2) v) off = .ok e ∧
      be16At (setU16 packet (e + 2) v) e = be16At packet e ∧
      ∀ j, e + 4 ≤ j → be16At (setU16 packet (e + 2) v) j = be16At packet j := by
  refine ⟨skipName_congr he (take_setU16 _ _ (by omega)) (by simpa using by omega),
    be16At_congr (take_setU16 _ _ le_rfl) le_rfl, fun j hj => ?_⟩
  rw [← Nat.add_zero j, ← be16At_drop, ← be16At_drop, drop_setU16 _ _ (by omega)]

/-- The packet after the callback, with the rest of the walk to come. -/
theorem WalkSpec.step {set set₁ : Bool} {packet₁ : Packet} {x : Outcome Error (ℕ × Bool)}
    (he : skipName packet off = .ok e) (hten : e + 10 ≤ packet.length)
    (h₁ : be16At packet e = dnsTypeOpt ∧ set₁ = true ∧ (∃ v, packet₁ = setU16 packet (e + 2) v) ∨
      be16At packet e ≠ dnsTypeOpt ∧ set₁ = set ∧ packet₁ = packet)
    (h : WalkSpec n (e + (10 + (be16At packet (e + 8)).toNat)) set₁ packet₁ packet' x)
    (hend : ∀ next, x = .ok (next, false) →
      e + 10 + (be16At packet (e + 8)).toNat ≤ packet.length) :
    WalkSpec (n + 1) off set packet packet' x := by
  obtain ⟨nm, hnm, hd, hname, -⟩ := skipName_sound he
  have hlen₁ : packet₁.length = packet.length := by
    rcases h₁ with ⟨-, -, v, rfl⟩ | ⟨-, -, rfl⟩ <;> simp
  have he₁ : skipName packet₁ off = .ok e ∧ be16At packet₁ e = be16At packet e ∧
      ∀ j, e + 4 ≤ j → be16At packet₁ j = be16At packet j := by
    rcases h₁ with ⟨-, -, v, rfl⟩ | ⟨-, -, rfl⟩
    · exact skipName_setClass he hten v
    · exact ⟨he, rfl, fun _ _ => rfl⟩
  have htake : packet₁.take off = packet.take off := by
    rcases h₁ with ⟨-, -, v, rfl⟩ | ⟨-, -, rfl⟩
    · exact take_setU16 _ _ (by omega)
    · rfl
  have hdrop : ∀ j, e + 4 ≤ j → packet₁.drop j = packet.drop j := by
    rcases h₁ with ⟨-, -, v, rfl⟩ | ⟨-, -, rfl⟩
    · exact fun j hj => drop_setU16 _ _ (by omega)
    · exact fun _ _ => rfl
  have htake' : ∀ j, j ≤ e + 10 → packet'.take j = packet₁.take j := by
    intro j hj
    have := congrArg (List.take j) h.before
    rwa [List.take_take, List.take_take, min_eq_left (by omega)] at this
  have hlen' : packet'.length = packet.length := h.length.trans hlen₁
  have he' : skipName packet' off = .ok e := skipName_congr he₁.1 (htake' e (by omega)) (by omega)
  refine ⟨h.finished, hlen', (htake' off (by omega)).trans htake, ?_, ?_⟩
  · refine endsInRoot_congr he he' hten hlen' ?_ ?_ ?_
    · rw [be16At_congr (htake' (e + 2) (by omega)) le_rfl, he₁.2.1]
    · rw [be16At_congr (htake' (e + 10) le_rfl) le_rfl, he₁.2.2 _ (by omega)]
    · rw [h.ends, hdrop _ (by omega)]
  · intro next hx
    obtain ⟨rfl, rfl, rs, hn, hd'⟩ := h.unset next hx
    rcases h₁ with ⟨-, h, -⟩ | ⟨-, rfl, rfl⟩
    · simp at h
    · obtain ⟨r, hdr, -⟩ := exists_record he (hend next hx)
      rw [Nat.add_assoc, hd'] at hdr
      exact ⟨rfl, rfl, r :: rs, by simp [hn], by rw [hdr, recordsBytes_cons, List.append_assoc]⟩

section

variable {σ : Type} {cb : ℕ → σ → Proc Packet Error σ} {s s₁ : σ} {packet₁ : Packet}

/-- The walk over a record whose callback returns. -/
theorem traverseRrsMut_succ (he : skipName packet off = .ok e) (hten : e + 10 ≤ packet.length)
    (hcb : cb e s packet = (.ok s₁, packet₁)) (hlen : packet₁.length = packet.length) :
    traverseRrsMut packet.length cb (n + 1) off s packet =
      if e + (10 + (be16At packet₁ (e + 8)).toNat) ≤ packet.length then
        traverseRrsMut packet₁.length cb n (e + (10 + (be16At packet₁ (e + 8)).toNat)) s₁ packet₁
      else (.err "Record length would exceed packet length", packet₁) := by
  simp only [traverseRrsMut, Proc.bind_apply, Proc.reads_apply, Proc.lift_apply, he, Proc.next_ok,
    usub_pos (show e ≤ packet.length by omega),
      ensure_pos (show packet.length - e ≥ 10 by omega), hcb,
    readU16_pos (show e + 8 + 2 ≤ packet₁.length by omega), usub_pos hten, ← Nat.add_assoc]
  split
  · next h => rw [ensure_pos (by omega), Proc.next_ok, hlen]
  · next h => rw [ensure_neg (by omega), Proc.next_err]

/-- The walk over a record whose callback fails. -/
theorem traverseRrsMut_succ_err {msg : Error} (he : skipName packet off = .ok e)
    (hten : e + 10 ≤ packet.length)
    (hcb : cb e s packet = (.err msg, packet₁)) :
    traverseRrsMut packet.length cb (n + 1) off s packet = (.err msg, packet₁) := by
  simp only [traverseRrsMut, Proc.bind_apply, Proc.reads_apply, Proc.lift_apply, he, Proc.next_ok,
    usub_pos (show e ≤ packet.length by omega),
      ensure_pos (show packet.length - e ≥ 10 by omega), hcb,
    Proc.next_err]

/-- The fields of a record are inside of the packet after its name, or there is no name with so many
bytes after it. -/
theorem fields_or_short (packet : Packet) (off : ℕ) :
    (∃ e, skipName packet off = .ok e ∧ e + 10 ≤ packet.length) ∨
      ∀ e, skipName packet off = .ok e → packet.length < e + 10 := by
  by_cases h : ∃ e, skipName packet off = .ok e ∧ e + 10 ≤ packet.length
  · exact .inl h
  · exact .inr fun e he => not_le.mp fun hle => h ⟨e, he, hle⟩

/-- The walk where no record stands. -/
theorem traverseRrsMut_succ_of_short (hp : packet ≠ [])
    (h : ∀ e, skipName packet off = .ok e → packet.length < e + 10) :
    ∃ msg, traverseRrsMut packet.length cb (n + 1) off s packet = (.err msg, packet) := by
  have hs := skipName_safe hp off
  cases he : skipName packet off with
  | ok e =>
    rw [he] at hs
    have := h e he
    refine ⟨"Short packet", ?_⟩
    simp only [traverseRrsMut, Proc.bind_apply, Proc.reads_apply, Proc.lift_apply, he, Proc.next_ok,
      usub_pos hs.2, ensure_neg (show ¬ packet.length - e ≥ 10 by omega), Proc.next_err]
  | err msg => exact ⟨msg, by simp only [traverseRrsMut, Proc.bind_apply, Proc.reads_apply, he,
    Proc.next_err]⟩
  | panic => rw [he] at hs; exact hs.elim
  | timeout => rw [he] at hs; exact hs.elim

end

/-- **The walk of `set_edns_max_payload_size`.** -/
theorem walkSpec_setPayload (maxPayloadSize : UInt16) :
    ∀ {n off : ℕ} {set : Bool} {packet : Packet},
    packet ≠ [] → WalkSpec n off set packet
      (traverseRrsMut packet.length (setPayload maxPayloadSize) n off set packet).2
      (traverseRrsMut packet.length (setPayload maxPayloadSize) n off set packet).1 := by
  intro n
  induction n with
  | zero =>
    intro off set packet hp
    refine ⟨trivial, rfl, rfl, Iff.rfl, fun next h => ?_⟩
    simp only [traverseRrsMut, Proc.pure_apply, Outcome.ok.injEq, Prod.mk.injEq] at h
    obtain ⟨rfl, rfl⟩ := h
    exact ⟨rfl, rfl, [], rfl, rfl⟩
  | succ n ih =>
    intro off set packet hp
    rcases fields_or_short packet off with ⟨e, he, hten⟩ | hshort
    · have hrest : ∀ {set₁ : Bool} {packet₁ : Packet},
          setPayload maxPayloadSize e set packet = (.ok set₁, packet₁) →
          (be16At packet e = dnsTypeOpt ∧ set₁ = true ∧ (∃ v, packet₁ = setU16 packet (e + 2) v) ∨
            be16At packet e ≠ dnsTypeOpt ∧ set₁ = set ∧ packet₁ = packet) →
          packet₁.length = packet.length → be16At packet₁ (e + 8) = be16At packet (e + 8) →
          WalkSpec (n + 1) off set packet
            (traverseRrsMut packet.length (setPayload maxPayloadSize) (n + 1) off set packet).2
            (traverseRrsMut packet.length (setPayload maxPayloadSize)
              (n + 1) off set packet).1 := by
        intro set₁ packet₁ hcb h₁ hlen hrd
        have hp₁ : packet₁ ≠ [] := by rintro rfl; exact hp (List.length_eq_zero_iff.mp hlen.symm)
        rw [traverseRrsMut_succ he hten hcb hlen, hrd]
        split
        · exact WalkSpec.step he hten h₁ (ih hp₁) fun _ _ => by omega
        · exact WalkSpec.step he hten h₁ (WalkSpec.of_err _) (by simp)
      have hcb := setPayload_apply maxPayloadSize set hten
      split at hcb
      · next ht =>
        split at hcb
        · refine hrest hcb (.inl ⟨ht, rfl, _, rfl⟩) (by simp) ?_
          exact (skipName_setClass he hten _).2.2 _ (by omega)
        · rw [traverseRrsMut_succ_err he hten hcb]
          exact WalkSpec.of_err _
      · next ht => exact hrest hcb (.inr ⟨ht, rfl, rfl⟩) rfl rfl
    · obtain ⟨msg, h⟩ : ∃ msg, traverseRrsMut packet.length (setPayload maxPayloadSize)
        (n + 1) off set packet =
          (.err msg, packet) := traverseRrsMut_succ_of_short hp hshort
      rw [h]
      exact WalkSpec.of_err msg

/-! ### Both together -/

/-- A full record is not cut short. -/
theorem endsInRoot_record {r : Record} {rest : List UInt8}
    (h : EndsInRoot (n + 1) (r.bytes ++ rest)) :
    EndsInRoot n rest := by
  have hd : (r.bytes ++ rest).drop 0 = r.bytes ++ rest := rfl
  obtain ⟨hs, hrd, -, hle⟩ := skipName_record hd
  rw [r.length_bytes] at hle
  have := ((endsInRoot_succ_of_skipName hs (by omega)).mp h).2
  rwa [hrd, Nat.zero_add, ← r.length_bytes, List.drop_left] at this

theorem endsInRoot_records {rs : List Record} {rest : List UInt8}
    (h : EndsInRoot (rs.length + n) (recordsBytes rs ++ rest)) : EndsInRoot n rest := by
  induction rs with
  | nil => simpa using h
  | cons r rs ih =>
    rw [recordsBytes_cons, List.append_assoc, List.length_cons, Nat.add_right_comm] at h
    exact ih (endsInRoot_record h)

/-- Adding an OPT record fails, or counts it and puts it at the end. -/
theorem addEdnsSection_cases (maxPayloadSize : UInt16) (hlen : 12 ≤ packet.length)
    (hmax : packet.length ≤ 4096) :
    (∃ msg, addEdnsSection maxPayloadSize packet = (.err msg, packet)) ∨
    ∃ bs, bs.length = 11 ∧ (be16At packet 10 + 1).toNat = (be16At packet 10).toNat + 1 ∧
      addEdnsSection maxPayloadSize packet = (.ok (),
        setU16 packet 10 (be16At packet 10 + 1) ++ bs) := by
  rw [addEdnsSection_apply maxPayloadSize hlen hmax]
  split
  · split
    · next hc =>
      rw [UInt16.lt_iff_toNat_lt] at hc
      refine .inr ⟨_, by rw [optRecord_bytes]; rfl, ?_, rfl⟩
      rw [UInt16.toNat_add]
      exact Nat.mod_eq_of_lt (Nat.succ_lt_succ hc)
    · exact .inl ⟨_, rfl⟩
  · exact .inl ⟨_, rfl⟩

/-- Where the additional section starts, only what stands there counts. -/
theorem cutOff_iff (hmax : packet.length ≤ 4096) (hqd : be16At packet 4 = 1)
    (hat : AdditionalAt packet off) :
    CutOff packet ↔ EndsInRoot (be16At packet 10).toNat (packet.drop off) := by
  constructor
  · rintro ⟨-, -, off', hat', h⟩
    rwa [hat.unique hat']
  · exact fun h => ⟨hmax, hqd, off, hat, h⟩

/-- An OPT record put after whole records ends them well. -/
theorem not_cutOff_append {rs : List Record} {next : ℕ} {count : UInt16} {bs : List UInt8}
    (hmax : packet.length ≤ 4096) (hqd : be16At packet 4 = 1) (hat : AdditionalAt packet off)
    (hd : packet.drop off = recordsBytes rs ++
      packet.drop next) (hn : rs.length = (be16At packet 10).toNat)
    (hcount : count.toNat = (be16At packet 10).toNat + 1) (hbs : bs.length = 11) :
    ¬ CutOff packet ∧ ¬ CutOff (setU16 packet 10 count ++ bs) := by
  obtain ⟨hle, hle'⟩ := hat.le_length
  have hdrop : ∀ j, 12 ≤ j → j ≤ packet.length →
    (setU16 packet 10 count ++ bs).drop j = packet.drop j ++ bs := by
    intro j hj hj'
    rw [List.drop_append_of_le_length (by simpa using hj'), drop_setU16 _ _ (by omega)]
  have hhead : ∀ j, j + 2 ≤ 10 → be16At (setU16 packet 10 count ++ bs) j = be16At packet j := by
    intro j hj
    rw [be16At_append_left (by simp; omega), be16At_congr (take_setU16 packet count le_rfl) hj]
  constructor
  · rw [cutOff_iff hmax hqd hat, hd, ← hn]
    exact fun h => not_endsInRoot_zero (endsInRoot_records h)
  · rintro ⟨-, -, off', hat', h⟩
    have hat₂ : AdditionalAt (setU16 packet 10 count ++ bs) off := by
      obtain ⟨question, qrs, hqn, hqd, hoff⟩ := hat
      refine ⟨question, qrs, by rw [hqn, hhead 6 (by omega), hhead 8 (by omega)], ?_, hoff⟩
      rw [hdrop 12 le_rfl (by omega), hdrop off (by omega) hle', hqd]
      simp only [List.append_assoc]
    have hc : be16At (setU16 packet 10 count ++ bs) 10 = count := by
      rw [be16At_append_left (by simp; omega), be16At_setU16 (by omega)]
    rw [hat'.unique hat₂, hdrop off (by omega) hle', hd, hc, hcount, ← hn, List.append_assoc] at h
    have hlast := endsInRoot_records h
    rw [endsInRoot_succ] at hlast
    rcases hlast with hcut | ⟨_, _, -, -, hzero⟩
    · have := hcut.length_le
      rw [List.length_append] at this
      omega
    · exact not_endsInRoot_zero hzero

/-- `set_edns_max_payload_size` does not panic, and it neither makes nor mends a cut. -/
theorem setEdnsMaxPayloadSize_spec (maxPayloadSize : UInt16) (packet : Packet) :
    (setEdnsMaxPayloadSize maxPayloadSize packet).1.Finished ∧
      (CutOff (setEdnsMaxPayloadSize maxPayloadSize packet).2 ↔ CutOff packet) := by
  have hf := additionalOffset_finished packet
  simp only [setEdnsMaxPayloadSize, Proc.bind_apply, Proc.reads_apply, Proc.next_ok]
  cases ha : additionalOffset packet with
  | err => exact ⟨trivial, Iff.rfl⟩
  | panic => rw [ha] at hf; exact hf.elim
  | timeout => rw [ha] at hf; exact hf.elim
  | ok off =>
    obtain ⟨hmax, hqd, hat⟩ := additionalOffset_eq_ok_iff.mp ha
    obtain ⟨hle, hle'⟩ := hat.le_length
    have hp : packet ≠ [] := by rintro rfl; simp at hle'; omega
    have hread : (arcount packet : Outcome Error UInt16) = .ok (be16At packet 10) :=
      readU16_pos (by omega)
    have hw : WalkSpec (be16At packet 10).toNat off false packet _ _ :=
      walkSpec_setPayload maxPayloadSize hp
    simp only [Proc.next_ok, Proc.bind_apply, Proc.reads_apply, hread]
    generalize traverseRrsMut packet.length (setPayload maxPayloadSize)
      (be16At packet 10).toNat off false packet =
      w at hw ⊢
    obtain ⟨x, packet'⟩ := w
    dsimp only at hw ⊢
    have hsame : CutOff packet' ↔ CutOff packet := by
      rw [cutOff_iff hmax hqd hat, cutOff_iff (hw.length.symm ▸ hmax)
        ((be16At_congr hw.before (by omega)).trans hqd)
        (hat.congr hw.before), be16At_congr hw.before (by omega), hw.ends]
    cases x with
    | err => exact ⟨trivial, hsame⟩
    | panic => exact hw.finished.elim
    | timeout => exact hw.finished.elim
    | ok r =>
      obtain ⟨next, set⟩ := r
      cases set with
      | true => exact ⟨trivial, hsame⟩
      | false =>
        obtain ⟨-, rfl, rs, hn, hd⟩ := hw.unset next rfl
        rcases addEdnsSection_cases maxPayloadSize (show 12 ≤ packet'.length by omega) hmax with
          ⟨msg, hadd⟩ | ⟨bs, hbs, hcount, hadd⟩
        · simp only [Proc.next_ok, Bool.false_eq_true, if_false, hadd]
          exact ⟨trivial, trivial⟩
        · simp only [Proc.next_ok, Bool.false_eq_true, if_false, hadd]
          obtain ⟨h₁, h₂⟩ := not_cutOff_append hmax hqd hat hd hn hcount hbs
          exact ⟨trivial, iff_of_false h₂ h₁⟩

/-- **When the two rewriters run to their end**: whatever the first returns and leaves behind, the
two neither read outside the packet nor subtract below zero exactly when the query is not cut
off inside of an additional record of the root. -/
theorem addEcs_after_setEdns_finished_iff (packet : Packet) (maxPayloadSize : UInt16)
    (clientIp : IpAddr)
    (prefixV4 prefixV6 : UInt8) :
    (setEdnsMaxPayloadSize maxPayloadSize packet).1.Finished ∧
        (addEcsToPacket clientIp prefixV4 prefixV6
          (setEdnsMaxPayloadSize maxPayloadSize packet).2).1.Finished ↔
      ¬ CutOff packet := by
  obtain ⟨hf, hcut⟩ := setEdnsMaxPayloadSize_spec maxPayloadSize packet
  rw [addEcsToPacket_finished_iff, hcut]
  exact and_iff_right hf

/-- **A query of 18 bytes stops the proxy**: its header announces an additional record, and one
zero byte follows the question. -/
theorem cut_off_query_panics :
    ∃ (packet : Packet) (clientIp : IpAddr) (prefixV4 prefixV6 : UInt8), 17 ≤ packet.length ∧
      (addEcsToPacket clientIp prefixV4 prefixV6
        (setEdnsMaxPayloadSize 4096 packet).2).1 = .panic :=
  ⟨[0, 0, 1, 0, 0, 1, 0, 0, 0, 0, 0, 1, 0, 0, 1, 0, 1, 0],
    .v4 #v[192, 168, 1, 7], 24, 56, by decide,
    by decide +kernel⟩

end

end DohProxy.Dns
