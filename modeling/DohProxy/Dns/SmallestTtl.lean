import DohProxy.Dns.MinTtl
import DohProxy.Dns.Padding
import Mathlib.Data.List.Perm.Basic
import Mathlib.Order.Bounds.Basic

/-!
# The smallest TTL

`min_ttl` of `dns.rs` on a packet that segments to its end: what the walk over the records makes of
their TTLs, whatever parser the packet has come through.

## What is proved

* `minTtl_bytes` — **what `min_ttl` makes of a message**: an error if it has no records, else the
  smallest TTL of the records apart from OPT, within bounds.
* `minTtl_smallest` — a TTL that it returns is that of a message, and neither the order of the
  records nor their sections count.
* `minTtl_failure_iff` — a message of nothing but OPT records gets the TTL of failures only when
  the greatest TTL comes to the same.
-/

namespace DohProxy.Dns

open Lib Outcome

/-- The records of all sections. -/
def Message.records (m : Message) : List Record := m.answers ++ (m.authorities ++ m.additionals)

/-- The TTLs of the records that are no OPT pseudo-records. -/
def ttlsOf (rs : List Record) : List UInt32 :=
  (rs.filter fun r => r.rtype ≠ dnsTypeOpt).map Record.ttl

theorem ttlsOf_cons (r : Record) (rs : List Record) :
    ttlsOf (r :: rs) = if r.rtype ≠ dnsTypeOpt then r.ttl :: ttlsOf rs else ttlsOf rs := by
  unfold ttlsOf
  rw [List.filter_cons]
  split <;> simp_all

theorem mem_ttlsOf {rs : List Record} {ttl : UInt32} :
    ttl ∈ ttlsOf rs ↔ ∃ r ∈ rs, r.rtype ≠ dnsTypeOpt ∧ r.ttl = ttl := by
  simp [ttlsOf, and_assoc]

theorem ite_lt_eq_min (a b : UInt32) : (if a < b then a else b) = min b a := by
  rw [Std.min_eq_if]
  split <;> split <;> grind

theorem ite_lt_eq_max (a b : UInt32) : (if a < b then b else a) = max b a := by
  change _ = if b ≤ a then a else b
  split <;> split <;> grind

section

variable {packet : Packet} {lo hi failureTtl : UInt32}

/-- **The loop over the records** keeps the smallest TTL. -/
theorem foldOffsets_ttl : ∀ {rs : List Record} {off : ℕ} {rest : List UInt8} {found : UInt32},
    packet.drop off = recordsBytes rs ++ rest →
      foldOffsets (fun offset foundMinTtl => do
        let qtype ← readU16 packet offset
        let ttl ← readU32 packet (offset + 4)
        return if qtype ≠ dnsTypeOpt ∧ ttl < foundMinTtl then ttl else foundMinTtl) rs off found =
      .ok ((ttlsOf rs).foldl min found) := by
  intro rs
  induction rs with
  | nil => exact fun _ => rfl
  | cons r rs ih =>
    intro off rest found hd
    rw [recordsBytes_cons, List.append_assoc] at hd
    obtain ⟨-, -, htype, hle⟩ := skipName_record hd
    have hf := hd
    rw [Record.bytes, List.append_assoc] at hf
    have httl := congrArg Record.ttl (Record.behind_eq (drop_of_drop _ hf)).1
    rw [Record.behind] at httl
    dsimp only at httl
    rw [r.length_bytes] at hle
    rw [foldOffsets, readU16_pos (by omega), ok_bind, readU32_pos (by omega), ok_bind, htype, httl,
      pure_eq_ok, ok_bind, ih (drop_of_drop _ hd), ttlsOf_cons]
    by_cases hopt : r.rtype = dnsTypeOpt
    · simp only [hopt, ne_eq, not_true_eq_false, false_and, if_false]
    · simp only [hopt, ne_eq, not_false_eq_true, true_and, if_true, List.foldl_cons]
      rw [ite_lt_eq_min]

/-- **What `min_ttl` makes of a message.** The test after the question lets no message pass that
has no records. -/
theorem minTtl_bytes (m : Message) (h : m.bytes.length ≤ 4096) :
    minTtl m.bytes lo hi failureTtl =
      if m.records = [] then .err "Short packet"
      else .ok (max lo ((ttlsOf m.records).foldl min hi)) := by
  have hq := m.drop_bytes
  rw [Question.bytes, List.append_assoc, ← recordsBytes_append, ← recordsBytes_append,
    ← Message.records] at hq
  have hlen := length_of_drop hq (by simp [u16Bytes])
  have hpos := m.question.name.valid.length_pos
  have hn := skipName_complete m.question.name.valid hq (by simp [u16Bytes])
  have hr := drop_of_drop _ (drop_of_drop _ hq)
  simp only [List.length_append, length_u16Bytes, Nat.reduceAdd] at hlen hr
  have hcount : m.answers.length + m.authorities.length + m.additionals.length =
      m.records.length := by
    simp only [Message.records, List.length_append, Nat.add_assoc]
  simp only [minTtl, dnsOffsetQuestion, dnsHeaderSize, dnsMaxPacketSize,
    ensure_pos (show m.bytes.length > 12 by omega), ensure_pos h, ok_bind, m.qdcount_bytes,
    ensure_true, hn, assert_pos (show 12 + m.question.name.bytes.length > 12 by omega),
    usub_pos (show 12 + m.question.name.bytes.length ≤ m.bytes.length by omega)]
  by_cases hnil : m.records = []
  · rw [if_pos hnil]
    rw [hnil, recordsBytes_nil, List.length_nil] at hlen
    rw [ensure_neg (by omega), err_bind]
  · have hne : 0 < (recordsBytes m.records).length := by
      obtain ⟨r, rs, hrs⟩ := List.exists_cons_of_ne_nil hnil
      rw [hrs, recordsBytes_cons, List.length_append, r.length_bytes]
      omega
    rw [if_neg hnil, ensure_pos (by omega), ok_bind, m.ancount_bytes, ok_bind, m.nscount_bytes,
      ok_bind, m.arcount_bytes, ok_bind]
    simp only [toNat_ofNat_count m.counts.1, toNat_ofNat_count m.counts.2.1,
      toNat_ofNat_count m.counts.2.2, hcount, if_pos (List.length_pos_iff.mpr hnil)]
    rw [traverseRrs_records _ (hr.trans (List.append_nil _).symm), foldOffsets_ttl
      (hr.trans (List.append_nil _).symm), ok_bind, ok_bind]
    dsimp only
    rw [ensure_pos (by omega), ok_bind, ite_lt_eq_max, pure_eq_ok]

/-- A packet with a TTL segments to its end. -/
theorem exists_message_of_minTtl {ttl : UInt32} (h : minTtl packet lo hi failureTtl = .ok ttl) :
    ∃ m : Message, m.bytes = packet ∧ packet.length ≤ 4096 := by
  simp only [minTtl, bind_eq_ok, ensure_eq_ok, usub_eq_ok, assert_eq_ok, readU16_eq_ok, qdcount,
    ancount, nscount, arcount, Prod.exists, dnsOffsetQuestion, dnsHeaderSize, dnsMaxPacketSize] at h
  obtain ⟨_, hlen, _, hmax, _, ⟨-, rfl⟩, _, hqd, e, he, _, -, _, ⟨hle, rfl⟩, _, hfour,
    _, ⟨-, rfl⟩, _, ⟨-, rfl⟩, _, ⟨-, rfl⟩, stop, _, ht, _, hend, -⟩ := h
  obtain ⟨rs, hn, hd, -, -⟩ := traverseRrs_sound (by omega) ht
  rw [← hend, List.drop_length, List.append_nil] at hd
  obtain ⟨m, hm, -⟩ := exists_message_of_records (by omega) hqd he (by omega) hn hd
  exact ⟨m, hm, hmax⟩

/-- The smallest of some values and a bound. -/
theorem exists_isLeast_foldl_min {l : List UInt32} (hne : l ≠ []) (hi : UInt32) :
    ∃ least, IsLeast {ttl | ttl ∈ l} least ∧ l.foldl min hi = min hi least := by
  obtain ⟨hmem, hle⟩ := List.min?_eq_some_iff.mp (List.min?_eq_some_min hne)
  exact ⟨_, ⟨hmem, hle⟩, List.foldl_min_eq_min hne⟩

/-- The smallest TTL, when there is one. -/
theorem exists_isLeast_ttl {rs : List Record} (h : ∃ r ∈ rs, r.rtype ≠ dnsTypeOpt) (hi : UInt32) :
    ∃ least, IsLeast {ttl | ∃ r ∈ rs, r.rtype ≠ dnsTypeOpt ∧ r.ttl = ttl} least ∧
      (ttlsOf rs).foldl min hi = min hi least := by
  obtain ⟨r, hr, hopt⟩ := h
  have hne : ttlsOf rs ≠ [] := List.ne_nil_of_mem (mem_ttlsOf.mpr ⟨r, hr, hopt, rfl⟩)
  obtain ⟨least, ⟨hmem, hle⟩, hmin⟩ := exists_isLeast_foldl_min hne hi
  exact ⟨least, ⟨mem_ttlsOf.mp hmem, fun ttl httl => hle (mem_ttlsOf.mpr httl)⟩, hmin⟩

/-- The order of the records does not count. -/
theorem foldl_min_ttlsOf_perm {rs rs' : List Record} (h : rs'.Perm rs) (hi : UInt32) :
    (ttlsOf rs').foldl min hi = (ttlsOf rs).foldl min hi :=
  ((h.filter _).map Record.ttl).foldl_eq hi

/-- **A TTL that is returned is the smallest one**, within bounds, of the records apart from OPT, and
it is that of every message with the same records, in whatever order and sections. -/
theorem minTtl_smallest {ttl : UInt32} (h : minTtl packet lo hi failureTtl = .ok ttl) :
    ∃ m, segment packet = .ok m ∧
      ((∃ r ∈ m.records, r.rtype ≠ dnsTypeOpt) → ∃ least,
        IsLeast {ttl | ∃ r ∈ m.records, r.rtype ≠ dnsTypeOpt ∧ r.ttl = ttl} least ∧
          ttl = max lo (min hi least)) ∧
      ∀ packet' m', segment packet' = .ok m' → packet'.length ≤ 4096 →
        m'.records.Perm m.records → minTtl packet' lo hi failureTtl = .ok ttl := by
  obtain ⟨m, rfl, hlen⟩ := exists_message_of_minTtl h
  rw [minTtl_bytes m hlen] at h
  split at h
  · cases h
  · next hne =>
    rw [Outcome.ok.injEq] at h
    refine ⟨m, segment_complete m, fun hopt => ?_, fun packet' m' hm' hlen' hperm => ?_⟩
    · obtain ⟨least, hleast, hfold⟩ := exists_isLeast_ttl hopt hi
      exact ⟨least, hleast, by rw [← h, hfold]⟩
    · rw [segment_eq_ok_iff] at hm'
      subst hm'
      have hne' : m'.records ≠ [] := fun hnil => hne (List.nil_perm.mp (hnil ▸ hperm))
      rw [minTtl_bytes m' hlen', if_neg hne', foldl_min_ttlsOf_perm hperm, h]

/-- In a reply with an answer and an OPT record, the TTL is the answer's. -/
theorem minTtl_smallest_answered :
    ∃ m, segment (rootQuery [rootA, optRecord 4096] (by decide)).bytes = .ok m ∧
      ∀ packet' m', segment packet' = .ok m' → packet'.length ≤ 4096 →
        m'.records.Perm m.records → minTtl packet' 10 604800 2 = .ok 10 := by
  obtain ⟨m, hm, -, hperm⟩ := minTtl_smallest
    (show minTtl (rootQuery [rootA, optRecord 4096] (by decide)).bytes 10 604800 2 = .ok 10 by
      decide +kernel)
  exact ⟨m, hm, hperm⟩

theorem max_eq_max_iff (lo a b : UInt32) : max lo a = max lo b ↔ a = b ∨ a ≤ lo ∧ b ≤ lo := by
  change (if lo ≤ a then a else lo) = (if lo ≤ b then b else lo) ↔ _
  split <;> split <;> grind

/-- **When a message with no TTL gets the TTL of failures**: it has an OPT record, and the greatest
TTL and that of failures come to the same. Without any record it gets an error. -/
theorem minTtl_failure_iff {m : Message} (hm : segment packet = .ok m)
    (hlen : packet.length ≤ 4096) (hopt : ∀ r ∈ m.records, r.rtype = dnsTypeOpt)
    (lo hi failureTtl : UInt32) :
    minTtl packet lo hi failureTtl = .ok (max lo failureTtl) ↔
      m.records ≠ [] ∧ (hi = failureTtl ∨ hi ≤ lo ∧ failureTtl ≤ lo) := by
  rw [segment_eq_ok_iff] at hm
  subst hm
  have hnone : ttlsOf m.records = [] := by
    rw [List.eq_nil_iff_forall_not_mem]
    intro ttl httl
    obtain ⟨r, hr, hne, -⟩ := mem_ttlsOf.mp httl
    exact hne (hopt r hr)
  rw [minTtl_bytes m hlen, hnone, List.foldl_nil, ← max_eq_max_iff]
  split
  · next hnil => simp [hnil]
  · next hne => simp [hne]

theorem minTtl_failure_iff_opt :
    minTtl (rootQuery [optRecord 4096] (by decide)).bytes 10 604800 2 = .ok (max 10 2) ↔
      (rootQuery [optRecord 4096] (by decide)).records ≠ [] ∧
        ((604800 : UInt32) = 2 ∨ (604800 : UInt32) ≤ 10 ∧ (2 : UInt32) ≤ 10) :=
  minTtl_failure_iff (segment_complete _) (by decide) (by decide) 10 604800 2

/-- **The TTL of failures is not given**: a message with no record gets an error, and one with an
OPT record gets the greatest TTL. -/
theorem failure_ttl_not_given :
    (∃ packet m, 12 < packet.length ∧ packet.length ≤ 4096 ∧ segment packet = .ok m ∧
      m.records = [] ∧ minTtl packet 10 604800 20 = .err "Short packet") ∧
    ∃ packet m, 12 < packet.length ∧ packet.length ≤ 4096 ∧ segment packet = .ok m ∧
      (∀ r ∈ m.records, r.rtype = dnsTypeOpt) ∧
      minTtl packet 10 604800 20 = .ok 604800 ∧ max 10 20 ≠ (604800 : UInt32) := by
  refine ⟨⟨(rootQuery [] (by decide)).bytes, _, by decide, by decide, segment_complete _, rfl,
    by decide +kernel⟩, (rootQuery [optRecord 4096] (by decide)).bytes, _, by decide, by decide,
    segment_complete _, by decide, by decide +kernel, by decide⟩

end

end DohProxy.Dns
