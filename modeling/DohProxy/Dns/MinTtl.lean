import DohProxy.Dns.Packet
import DohProxy.Upstream.Pack

/-!
# The TTL of a reply

A reply has come through the parser of the upstream layer, `Msg.unpack`, when `min_ttl` of `dns.rs`
walks over it once more. The two do not walk the same way: one follows compression pointers, and
has other limits and other tests for the end of the packet.

## What is proved

`minTtl_of_unpack` — **`min_ttl` never fails on a packet with one question and a record that the
parser accepts.**
-/

namespace DohProxy.Dns

open Lib Outcome Upstream

/-- The smallest TTL of the records, apart from OPT, within bounds. -/
def minTtl (packet : Packet) (minTtl maxTtl failureTtl : UInt32) : Outcome Error UInt32 := do
  ensure (packet.length > dnsOffsetQuestion) "Short packet"
  ensure (packet.length ≤ dnsMaxPacketSize) "Large packet"
  ensure ((← qdcount packet) = 1) "No question"
  let offset ← skipName packet dnsOffsetQuestion
  assert (offset > dnsOffsetQuestion)
  ensure ((← usub packet.length offset) > 4) "Short packet"
  let ancount ← ancount packet
  let nscount ← nscount packet
  let arcount ← arcount packet
  let rrcount := ancount.toNat + nscount.toNat + arcount.toNat
  let foundMinTtl := if rrcount > 0 then maxTtl else failureTtl
  let (offset, foundMinTtl) ← traverseRrs packet (fun offset foundMinTtl => do
    let qtype ← readU16 packet offset
    let ttl ← readU32 packet (offset + 4)
    return if qtype ≠ dnsTypeOpt ∧ ttl < foundMinTtl then ttl else foundMinTtl)
    rrcount (offset + 4) foundMinTtl
  let foundMinTtl := if foundMinTtl < minTtl then minTtl else foundMinTtl
  ensure (packet.length = offset) "Garbage after packet"
  return foundMinTtl

variable {packet : Packet}

/-- A name the parser reads is one that is skipped. -/
theorem rawName_of_wireName {k off next : ℕ} {labels : List (List UInt8)}
    (h : WireName packet k off labels next) :
    ∃ q nm, RawName q nm ∧ q ≤ octets labels + 1 ∧ packet.drop off = nm ++ packet.drop next ∧
      next = off + nm.length := by
  induction h with
  | root hb => exact ⟨1, [0], .root, Nat.le_refl _, drop_of_getElem? hb, rfl⟩
  | @label k off next len bs labels hb hpos hlt hbs hd _ ih =>
    obtain ⟨q, nm, hnm, hq, hdrop, rfl⟩ := ih
    refine ⟨_, _, .label hpos hlt hbs hnm, ?_, ?_, ?_⟩
    · rw [octets_cons, hbs]
      omega
    · rw [drop_of_getElem? hb, hd, hdrop, List.cons_append, List.append_assoc]
    · rw [List.length_cons, List.length_append, hbs]
      omega
  | @pointer k off next high low labels hb hh hl _ _ _ =>
    refine ⟨0, [high, low], .pointer hh, Nat.zero_le _, ?_, rfl⟩
    rw [drop_of_getElem? hb, drop_of_getElem? hl]
    rfl

/-- The walker skips a name the parser reads, where there is a byte after it. -/
theorem skipName_of_fromWire {off next : ℕ} {name : Name}
    (h : Name.fromWire packet off = .ok (name, next))
    (hlt : next < packet.length) : skipName packet off = .ok next := by
  obtain ⟨_, -, hoctets, hname⟩ := Name.fromWire_eq_ok_iff.mp h
  obtain ⟨q, nm, hnm, hq, hd, rfl⟩ := rawName_of_wireName hname
  refine skipName_complete ⟨q, ?_, hnm⟩ hd (by simpa using hlt)
  rw [dnsMaxHostnameSize]
  omega

/-- The walker gets past the records the parser reads. -/
theorem traverseRrs_of_unpackRrSection {σ : Type} {cb : ℕ → σ → Outcome Error σ}
    (hcb : ∀ off s, off + 10 ≤ packet.length → ∃ s', cb off s = .ok s') : ∀ {n off stop : ℕ}
      {records : List ResourceRecord} (s : σ), unpackRrSection packet n off = .ok (records, stop) →
        ∃ s', traverseRrs packet cb n off s = .ok (stop, s') := by
  intro n
  induction n with
  | zero =>
    intro off stop records s h
    cases h
    exact ⟨s, rfl⟩
  | succ n ih =>
    intro off stop records s h
    simp only [unpackRrSection, unpackRr, bind_eq_ok, Prod.exists, ensure_eq_ok] at h
    obtain ⟨rr, e, hunpack, rest, _, hrest, h⟩ := h
    obtain ⟨name, next, hname, _, hroom, _, _, _, _, _, _, rdlen, hrdlen, _, hfit, _, _,
      hrr⟩ := hunpack
    cases hrr
    cases h
    have hten : 10 ≤ packet.length - next := Nat.le_of_not_lt hroom
    have hlt : next < packet.length := by omega
    obtain ⟨s', hs'⟩ := hcb next s (by omega)
    obtain ⟨s'', hrun⟩ := ih s' hrest
    refine ⟨s'', ?_⟩
    have hrdlen : (readU16 packet (next + 8) : Outcome Error UInt16) = .ok rdlen :=
      readU16_eq_ok.mpr (readU16_eq_ok.mp hrdlen)
    rw [traverseRrs, skipName_of_fromWire hname hlt, ok_bind, usub_pos hlt.le,
      ok_bind, ensure_pos hten,
      ok_bind, hs', ok_bind, hrdlen, ok_bind]
    dsimp only
    rw [usub_pos (by omega), ok_bind, ensure_pos (Nat.le_of_not_lt hfit), ok_bind, hrun]

/-- A record lies inside the packet. -/
theorem lt_length_of_unpackRrSection {n off stop : ℕ} {records : List ResourceRecord} (hpos : 0 < n)
    (h : unpackRrSection packet n off = .ok (records, stop)) : off < packet.length := by
  obtain ⟨n, rfl⟩ := Nat.exists_eq_succ_of_ne_zero hpos.ne'
  obtain ⟨rr, e, rest, hrr, -, -⟩ := unpackRrSection_succ h
  obtain ⟨hlt, hle⟩ := lt_next_of_unpackRr hrr
  exact Nat.lt_of_lt_of_le hlt hle

/-- **`min_ttl` finds a TTL in every reply the parser accepts** that has one question and a record,
and is not larger than what is allowed. -/
theorem minTtl_of_unpack {m : Msg} (h : Msg.unpack packet = .ok m) (hsize : packet.length ≤ 4096)
    (hquestion : m.questions.length = 1)
    (hrecord : 0 < m.answers.length + m.authorities.length + m.additionals.length)
      (lo hi failureTtl : UInt32) :
    ∃ ttl, minTtl packet lo hi failureTtl = .ok ttl := by
  obtain ⟨hlen, -, -, o₁, o₂, o₃, h₁, h₂, h₃, h₄⟩ := Msg.unpack_eq_ok.mp h
  rw [Upstream.dnsHeaderSize] at hlen
  obtain ⟨hqd, -⟩ := fits_of_unpackQuestions h₁
  rw [(fits_of_unpackRrSection h₂).1, (fits_of_unpackRrSection h₃).1,
    (fits_of_unpackRrSection h₄).1] at hrecord
  have hrecords := unpackRrSection_add (unpackRrSection_add h₂ h₃) h₄
  have hend := lt_length_of_unpackRrSection hrecord hrecords
  -- the question
  rw [← hqd, hquestion] at h₁
  obtain ⟨name, next, rest, hname, -, -, hnil, -⟩ := Msg.unpackQuestions_succ h₁
  cases hnil
  obtain ⟨_, -, -, hwire⟩ := Name.fromWire_eq_ok_iff.mp hname
  have hone : be16At packet 4 = 1 := UInt16.toNat_inj.mp (hqd.symm.trans hquestion)
  have hread : ∀ i, i ≤ 10 → (readU16 packet i : Outcome Error UInt16) = .ok (be16At packet i) :=
    fun i hi => readU16_pos (Nat.le_trans (Nat.add_le_add_right hi 2) hlen)
  have hend : next + 4 < packet.length := hend
  have hlt : next < packet.length := by omega
  have hroom : packet.length - next > 4 := by omega
  -- the records
  have hcb : ∀ off (s : UInt32), off + 10 ≤ packet.length → ∃ s', (do
      let qtype ← readU16 packet off
      let ttl ← readU32 packet (off + 4)
      return if qtype ≠ dnsTypeOpt ∧ ttl < s then ttl
        else s) = (.ok s' : Outcome Error UInt32) := by
    intro off s hoff
    rw [readU16_pos (by omega), ok_bind, readU32_pos (by omega), ok_bind]
    exact ⟨_, rfl⟩
  obtain ⟨found, hfound⟩ := traverseRrs_of_unpackRrSection hcb
    (if (be16At packet 6).toNat + (be16At packet 8).toNat + (be16At packet 10).toNat > 0 then hi
      else failureTtl) hrecords
  refine ⟨if found < lo then lo else found, ?_⟩
  rw [minTtl, ensure_pos (Nat.lt_trans hwire.lt_next.1 hlt), ok_bind, ensure_pos hsize, ok_bind,
    qdcount, hread 4 (by decide), ok_bind,
    ensure_pos hone, ok_bind, skipName_of_fromWire hname hlt, ok_bind,
      assert_pos hwire.lt_next.1, ok_bind,
    usub_pos hlt.le, ok_bind, ensure_pos hroom, ok_bind, ancount,
      hread 6 (by decide), ok_bind, nscount,
    hread 8 (by decide), ok_bind, arcount, hread 10 (by decide), ok_bind]
  dsimp only
  rw [hfound, ok_bind]
  dsimp only
  rw [ensure_pos rfl, ok_bind]
  rfl

theorem minTtl_of_unpack_compressedReply : ∃ ttl, minTtl compressedReply 10 604800 2 = .ok ttl :=
  minTtl_of_unpack
    (show Msg.unpack compressedReply = .ok ⟨MsgHeader.fromWire 0x1234 0x8180,
      false, [⟨⟨[[0x61]]⟩, .A, 1⟩],
      [⟨⟨[[0x61]]⟩, .A, 1, 60, [192, 0, 2, 1]⟩], [], []⟩ by decide +kernel)
    (by decide) (by decide) (by decide) 10 604800 2

end DohProxy.Dns
