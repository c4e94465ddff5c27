import DohProxy.Lib.Bytes
import DohProxy.Upstream.RrType

/-!
# Messages

The message parser of the upstream layer, `msg.rs`: every reply goes through
`Msg.unpack` before it is used. Unlike the walkers of `dns.rs` it follows compression
pointers, of which it allows 128 for a name.

## The model

`Name.fromWireLoop` goes over one label or pointer a round. A round either follows a
pointer or lengthens the name, and both are limited, so a fixed amount of fuel is enough
(`Name.fromWire_finished`).

## What is proved

`WireName` says what labels a packet spells at an offset, how many pointers that takes and
where the name's own bytes end. `Name.fromWire_eq_ok_iff` — **`from_wire` returns exactly
the names spelled with at most 128 pointers and at most 255 octets.**
-/

namespace DohProxy.Upstream

open Lib Outcome

/-- The size of the header. -/
@[simp] abbrev dnsHeaderSize : ℕ := 12

/-- The class of the Internet. -/
def dnsClassIn : UInt16 := 1

/-- The longest name, in octets. -/
@[simp] abbrev maxDomainNameWireOctets : ℕ := 255

/-- The most pointers a name may take. -/
@[simp] abbrev maxCompressionPointers : ℕ := 128

/-- What is wrong with a message. -/
inductive MsgError where
  | shortPacket | invalidName | compressionLoop | invalidLabelLength | invalidRecord | trailingBytes | rdataTooLong
  deriving DecidableEq

/-- A message's header. -/
structure MsgHeader where
  /-- The transaction id. -/
  id : UInt16
  /-- Whether it is a response. -/
  response : Bool
  /-- The kind of query. -/
  opcode : UInt8
  /-- Whether the server is an authority for the name. -/
  authoritative : Bool
  /-- Whether the message was cut to fit. -/
  truncated : Bool
  /-- Whether recursion is asked for. -/
  recursionDesired : Bool
  /-- Whether recursion is offered. -/
  recursionAvailable : Bool
  /-- The reserved bit. -/
  zero : Bool
  /-- Whether the data is authenticated. -/
  authenticatedData : Bool
  /-- Whether checking is disabled. -/
  checkingDisabled : Bool
  /-- The response code. -/
  rcode : UInt8
  deriving DecidableEq

/-- The header with the given flags. -/
def MsgHeader.fromWire (id bits : UInt16) : MsgHeader where
  id := id
  response := bits &&& 0x8000 != 0
  opcode := ((bits >>> 11) &&& 0x0f).toUInt8
  authoritative := bits &&& 0x0400 != 0
  truncated := bits &&& 0x0200 != 0
  recursionDesired := bits &&& 0x0100 != 0
  recursionAvailable := bits &&& 0x0080 != 0
  zero := bits &&& 0x0040 != 0
  authenticatedData := bits &&& 0x0020 != 0
  checkingDisabled := bits &&& 0x0010 != 0
  rcode := (bits &&& 0x0f).toUInt8

/-- A name. -/
structure Name where
  /-- Its labels, the root's left out. -/
  labels : List (List UInt8)
  deriving DecidableEq

/-- The offset a compression pointer leads to. -/
def pointerTarget (high low : UInt8) : ℕ := ((high &&& 0x3f).toNat <<< 8) ||| low.toNat

/-- The loop of `from_wire`. -/
def Name.fromWireLoop (packet : List UInt8) :
    ℕ → List (List UInt8) → ℕ → Option ℕ → ℕ → ℕ → Outcome MsgError (Name × ℕ)
  | 0, _, _, _, _, _ => .timeout
  | fuel + 1, labels, current, consumed, pointersFollowed, wireLen =>
    match packet[current]? with
    | none => .err .shortPacket
    | some len =>
      if len &&& 0xc0 = 0xc0 then
        match packet[current + 1]? with
        | none => .err .shortPacket
        | some low => do
          let ptr := pointerTarget len low
          ensure (ptr < packet.length) .invalidName
          let consumed := consumed.or (some (current + 2))
          let pointersFollowed := pointersFollowed + 1
          ensure (pointersFollowed ≤ maxCompressionPointers) .compressionLoop
          fromWireLoop packet fuel labels ptr consumed pointersFollowed wireLen
      else if len &&& 0xc0 = 0 then do
        let labelLen := len.toNat
        let current := current + 1
        if labelLen = 0 then return (⟨labels⟩, consumed.getD current)
        else
          let stop := current + labelLen
          ensure (stop ≤ packet.length) .shortPacket
          let wireLen := wireLen + (1 + labelLen)
          ensure (wireLen ≤ maxDomainNameWireOctets) .invalidName
          let label ← slice packet current stop
          fromWireLoop packet fuel (labels ++ [label]) stop consumed pointersFollowed wireLen
      else .err .invalidLabelLength

/-- The name at `offset`, and the offset after its own bytes. -/
def Name.fromWire (packet : List UInt8) (offset : ℕ) : Outcome MsgError (Name × ℕ) :=
  fromWireLoop packet (maxCompressionPointers + maxDomainNameWireOctets + 2) [] offset none 0 1

/-- A question. -/
structure Question where
  /-- The name asked about. -/
  name : Name
  /-- The type asked for. -/
  qtype : RrType
  /-- The class. -/
  qclass : UInt16
  deriving DecidableEq

/-- A resource record. -/
structure ResourceRecord where
  /-- The owner name. -/
  name : Name
  /-- The type. -/
  rrType : RrType
  /-- The class. -/
  rrClass : UInt16
  /-- The time to live. -/
  ttl : UInt32
  /-- The data. -/
  rdata : List UInt8
  deriving DecidableEq

/-- A message. -/
structure Msg where
  /-- The header. -/
  header : MsgHeader
  /-- Whether names are to be compressed. -/
  compress : Bool
  /-- The questions. -/
  questions : List Question
  /-- The answer section. -/
  answers : List ResourceRecord
  /-- The authority section. -/
  authorities : List ResourceRecord
  /-- The additional section. -/
  additionals : List ResourceRecord
  deriving DecidableEq

/-- The questions from `offset` on, and the offset after them. -/
def Msg.unpackQuestions (packet : List UInt8) : ℕ → ℕ → Outcome MsgError (List Question × ℕ)
  | 0, offset => return ([], offset)
  | qdcount + 1, offset => do
    let (name, next) ← Name.fromWire packet offset
    ensure (¬ packet.length - next < 4) .shortPacket
    let qtype ← readU16 packet next
    let qclass ← readU16 packet (next + 2)
    let (questions, offset) ← unpackQuestions packet qdcount (next + 4)
    return (⟨name, RrType.fromU16 qtype, qclass⟩ :: questions, offset)

/-- The record at `offset`, and the offset after it. -/
def unpackRr (packet : List UInt8) (offset : ℕ) : Outcome MsgError (ResourceRecord × ℕ) := do
  let (name, next) ← Name.fromWire packet offset
  ensure (¬ packet.length - next < 10) .shortPacket
  let rrType ← readU16 packet next
  let rrClass ← readU16 packet (next + 2)
  let ttl ← readU32 packet (next + 4)
  let rdlen ← readU16 packet (next + 8)
  let rdataOffset := next + 10
  ensure (¬ packet.length - rdataOffset < rdlen.toNat) .invalidRecord
  let rdata ← slice packet rdataOffset (rdataOffset + rdlen.toNat)
  return (⟨name, RrType.fromU16 rrType, rrClass, ttl, rdata⟩, rdataOffset + rdlen.toNat)

/-- The records from `offset` on, and the offset after them. -/
def unpackRrSection (packet : List UInt8) : ℕ → ℕ → Outcome MsgError (List ResourceRecord × ℕ)
  | 0, offset => return ([], offset)
  | count + 1, offset => do
    let (record, offset) ← unpackRr packet offset
    let (records, offset) ← unpackRrSection packet count offset
    return (record :: records, offset)

/-- The message a packet is. -/
def Msg.unpack (packet : List UInt8) : Outcome MsgError Msg := do
  ensure (¬ packet.length < dnsHeaderSize) .shortPacket
  let id ← readU16 packet 0
  let bits ← readU16 packet 2
  let qdcount ← readU16 packet 4
  let ancount ← readU16 packet 6
  let nscount ← readU16 packet 8
  let arcount ← readU16 packet 10
  let (questions, offset) ← unpackQuestions packet qdcount.toNat dnsHeaderSize
  let (answers, next) ← unpackRrSection packet ancount.toNat offset
  let (authorities, next) ← unpackRrSection packet nscount.toNat next
  let (additionals, next) ← unpackRrSection packet arcount.toNat next
  ensure (next = packet.length) .trailingBytes
  return ⟨MsgHeader.fromWire id bits, false, questions, answers, authorities, additionals⟩

/-! ### What a packet spells -/

/-- The octets of labels in a packet. -/
def octets (labels : List (List UInt8)) : ℕ := (labels.map fun label => 1 + label.length).sum

@[simp] theorem octets_nil : octets [] = 0 := rfl

@[simp] theorem octets_cons (label : List UInt8) (labels : List (List UInt8)) :
    octets (label :: labels) = 1 + label.length + octets labels := by
  simp [octets]

theorem length_le_octets (labels : List (List UInt8)) : labels.length ≤ octets labels := by
  induction labels with
  | nil => simp
  | cons label labels ih => simp only [List.length_cons, octets_cons]; omega

/-- At `off` the packet spells `labels`, by way of `k` pointers, and the name's own bytes end at
`next`. -/
inductive WireName (packet : List UInt8) : ℕ → ℕ → List (List UInt8) → ℕ → Prop where
  /-- The root byte. -/
  | root {off : ℕ} : packet[off]? = some 0 → WireName packet 0 off [] (off + 1)
  /-- A label, with its length before it. -/
  | label {k off next : ℕ} {len : UInt8} {bs : List UInt8} {labels : List (List UInt8)} :
      packet[off]? = some len → 0 < len.toNat → len.toNat < 64 → bs.length = len.toNat →
      packet.drop (off + 1) = bs ++ packet.drop (off + 1 + len.toNat) →
      WireName packet k (off + 1 + len.toNat) labels next →
        WireName packet k off (bs :: labels) next
  /-- A compression pointer. -/
  | pointer {k off next : ℕ} {high low : UInt8} {labels : List (List UInt8)} :
      packet[off]? = some high → 192 ≤ high.toNat → packet[off + 1]? = some low →
      pointerTarget high low < packet.length →
        WireName packet k (pointerTarget high low) labels next →
      WireName packet (k + 1) off labels (off + 2)

section

variable {packet : List UInt8}

/-- The labels are labels. -/
theorem WireName.labels_fit {k off next : ℕ} {labels : List (List UInt8)}
    (h : WireName packet k off labels next) :
    ∀ label ∈ labels, 0 < label.length ∧ label.length < 64 := by
  induction h with
  | root => simp
  | label _ hpos hlt hbs _ _ ih =>
    rintro label (_ | ⟨_, hmem⟩)
    · omega
    · exact ih label hmem
  | pointer _ _ _ _ _ ih => exact ih

/-- The name's own bytes lie inside the packet. -/
theorem WireName.lt_next {k off next : ℕ} {labels : List (List UInt8)}
    (h : WireName packet k off labels next) :
    off < next ∧ next ≤ packet.length := by
  induction h with
  | root hb => exact ⟨Nat.lt_succ_self _, (List.getElem?_eq_some_iff.mp hb).1⟩
  | label _ _ _ _ _ _ ih => omega
  | pointer _ _ hl _ _ _ =>
    have := (List.getElem?_eq_some_iff.mp hl).1
    omega

/-- **Names that are spelled within the limits are read.** -/
theorem Name.fromWireLoop_complete {k off next : ℕ} {ls : List (List UInt8)}
    (h : WireName packet k off ls next) :
    ∀ {fuel : ℕ} {labels : List (List UInt8)} {consumed : Option ℕ} {pointersFollowed wireLen : ℕ},
      k + ls.length < fuel → pointersFollowed + k ≤ 128 → wireLen + octets ls ≤ 255 →
      fromWireLoop packet fuel labels off consumed pointersFollowed wireLen =
        .ok (⟨labels ++ ls⟩, consumed.getD next) := by
  induction h with
  | root hb =>
    intro fuel labels consumed ptrs wl hf hk hw
    obtain ⟨fuel, rfl⟩ := Nat.exists_eq_succ_of_ne_zero (show fuel ≠ 0 by omega)
    simp [fromWireLoop, hb]
  | @label k off next len bs ls hb hpos hlt hbs hd h ih =>
    intro fuel labels consumed ptrs wl hf hk hw
    obtain ⟨fuel, rfl⟩ := Nat.exists_eq_succ_of_ne_zero (show fuel ≠ 0 by omega)
    simp only [octets_cons, hbs, List.length_cons] at hw hf
    have hc0 : ¬ len &&& 0xc0 = 0xc0 := fun hc => by have := (and_c0_eq_c0_iff len).mp hc; omega
    have hz : len &&& 0xc0 = 0 := (and_c0_eq_zero_iff len).mpr hlt
    have hle := h.lt_next
    have hstop : off + 1 + len.toNat ≤ packet.length := by omega
    simp only [fromWireLoop, hb, if_neg hc0, if_pos hz, if_neg hpos.ne', ensure_pos hstop, ok_bind,
      maxDomainNameWireOctets, ensure_pos (show wl + (1 + len.toNat) ≤ 255 by omega),
      slice_of_drop (show off + 1 + len.toNat = off + 1 + bs.length by omega) hstop hd]
    rw [ih (by omega) hk (by omega), List.append_assoc, List.singleton_append]
  | @pointer k off next high low ls hb hh hl hptr h ih =>
    intro fuel labels consumed ptrs wl hf hk hw
    obtain ⟨fuel, rfl⟩ := Nat.exists_eq_succ_of_ne_zero (show fuel ≠ 0 by omega)
    have hc : high &&& 0xc0 = 0xc0 := (and_c0_eq_c0_iff high).mpr hh
    simp only [fromWireLoop, hb, if_pos hc, hl, ensure_pos hptr, ok_bind, maxCompressionPointers,
      ensure_pos (show ptrs + 1 ≤ 128 by omega)]
    rw [ih (by omega) (by omega) hw]
    cases consumed <;> rfl

/-- **No other names are.** -/
theorem Name.fromWireLoop_sound : ∀ {fuel off : ℕ} {labels : List (List UInt8)}
    {consumed : Option ℕ}
    {pointersFollowed wireLen next : ℕ} {name : Name}, pointersFollowed ≤ 128 → wireLen ≤ 255 →
      fromWireLoop packet fuel labels off consumed pointersFollowed wireLen = .ok (name, next) →
      ∃ k ls own, WireName packet k off ls own ∧ name.labels = labels ++ ls ∧
        next = consumed.getD own ∧
        pointersFollowed + k ≤ 128 ∧ wireLen + octets ls ≤ 255 := by
  intro fuel
  induction fuel with
  | zero => intro off labels consumed ptrs wl next name _ _ h; simp [fromWireLoop] at h
  | succ fuel ih =>
    intro off labels consumed ptrs wl next name hk hw h
    unfold fromWireLoop at h
    cases hb : packet[off]? with
    | none => simp [hb] at h
    | some len =>
      simp only [hb] at h
      split at h
      · next hc =>
        cases hl : packet[off + 1]? with
        | none => simp [hl] at h
        | some low =>
          simp only [hl, bind_eq_ok, ensure_eq_ok, maxCompressionPointers] at h
          obtain ⟨_, hptr, _, hk', h⟩ := h
          obtain ⟨k, ls, own, hn, hls, hnext, hk₁, hw₁⟩ := ih hk' hw h
          refine ⟨k + 1, ls, off + 2, .pointer hb ((and_c0_eq_c0_iff len).mp hc) hl hptr hn, hls,
            ?_, by omega, hw₁⟩
          rw [hnext]
          cases consumed <;> rfl
      · split at h
        · next hz =>
          split at h
          · next h0 =>
            simp only [pure_eq_ok, Outcome.ok.injEq, Prod.mk.injEq] at h
            obtain ⟨rfl, rfl⟩ := h
            have : len = 0 := UInt8.toNat_inj.mp h0
            subst this
            exact ⟨0, [], off + 1, .root hb, by simp, rfl, hk, by simpa using hw⟩
          · next h0 =>
            simp only [bind_eq_ok, ensure_eq_ok, maxDomainNameWireOctets] at h
            obtain ⟨_, hstop, _, hw', label, hlabel, h⟩ := h
            rw [slice_pos ⟨by omega, hstop⟩, Outcome.ok.injEq] at hlabel
            obtain ⟨k, ls, own, hn, hls, hnext, hk₁, hw₁⟩ := ih hk hw' h
            have hlen : label.length = len.toNat := by
              rw [← hlabel, List.length_drop, List.length_take]; omega
            refine ⟨k, label :: ls, own,
              .label hb (by omega) ((and_c0_eq_zero_iff len).mp hz) hlen ?_ hn, ?_, hnext,
              hk₁, ?_⟩
            · rw [← hlabel, List.drop_take, Nat.add_sub_cancel_left]
              exact drop_eq_take_append _ _
            · rw [hls, List.append_assoc, List.singleton_append]
            · rw [octets_cons, hlen]; omega
        · simp at h

/-- **What `from_wire` returns**: the names spelled with at most 128 pointers and 255 octets. -/
theorem Name.fromWire_eq_ok_iff {off next : ℕ} {name : Name} :
    Name.fromWire packet off = .ok (name, next) ↔
    ∃ k ≤ 128, 1 + octets name.labels ≤ 255 ∧ WireName packet k off name.labels next := by
  constructor
  · intro h
    obtain ⟨k, ls, own, hn, hls, rfl, hk, hw⟩ := fromWireLoop_sound (Nat.zero_le _) (by omega) h
    rw [List.nil_append] at hls
    subst hls
    exact ⟨k, by omega, hw, hn⟩
  · rintro ⟨k, hk, hw, hn⟩
    have := length_le_octets name.labels
    exact fromWireLoop_complete hn (by simp only [maxCompressionPointers, maxDomainNameWireOctets]; omega)
      (by omega) hw

/-- There is fuel enough, and no read outside the packet. -/
theorem Name.fromWireLoop_finished : ∀ {fuel off : ℕ} {labels : List (List UInt8)}
    {consumed : Option ℕ}
    {pointersFollowed wireLen : ℕ}, pointersFollowed ≤ 128 → wireLen ≤ 255 →
      385 ≤ fuel + (pointersFollowed + wireLen) →
      (fromWireLoop packet fuel labels off consumed pointersFollowed wireLen).Finished := by
  intro fuel
  induction fuel with
  | zero => intro off labels consumed ptrs wl hk hw hf; omega
  | succ fuel ih =>
    intro off labels consumed ptrs wl hk hw hf
    unfold fromWireLoop
    cases packet[off]? with
    | none => trivial
    | some len =>
      dsimp only
      split
      · cases packet[off + 1]? with
        | none => trivial
        | some low =>
          refine (safe_ensure.bind fun _ _ _ => safe_ensure.bind fun _ _ hk' =>
            ?_).finished (Q := fun _ => True)
          exact safe_true_iff.mpr (ih hk' hw (by omega))
      · split
        · split
          · trivial
          · refine (safe_ensure.bind fun _ _ hstop => safe_ensure.bind fun _ _ hw' =>
              ?_).finished (Q := fun _ => True)
            rw [slice_pos ⟨by omega, hstop⟩, ok_bind]
            exact safe_true_iff.mpr (ih hk hw' (by omega))
        · trivial

theorem Name.fromWire_finished (packet : List UInt8) (off : ℕ) :
    (Name.fromWire packet off).Finished :=
  fromWireLoop_finished (Nat.zero_le _) (by omega) (by simp only [maxCompressionPointers, maxDomainNameWireOctets]; omega)

/-! ### Reading what was written out -/

/-- Labels as they stand in a packet, without the root byte. -/
def labelBytes (labels : List (List UInt8)) : List UInt8 :=
  labels.flatMap fun label => UInt8.ofNat label.length :: label

theorem length_labelBytes (labels : List (List UInt8)) :
    (labelBytes labels).length = octets labels := by
  induction labels with
  | nil => rfl
  | cons label labels ih =>
    rw [labelBytes, List.flatMap_cons, List.length_append, ← labelBytes, ih, octets_cons,
      List.length_cons]
    omega

/-- Labels written out, with a root byte after them, spell themselves. -/
theorem wireName_of_drop : ∀ {labels : List (List UInt8)} {off : ℕ} {rest : List UInt8},
    (∀ label ∈ labels, 0 < label.length ∧ label.length < 64) →
      packet.drop off = labelBytes labels ++ 0 :: rest →
      WireName packet 0 off labels (off + (octets labels + 1)) := by
  intro labels
  induction labels with
  | nil =>
    intro off rest _ hd
    refine .root ?_
    rw [← Nat.add_zero off, ← List.getElem?_drop, hd]
    rfl
  | cons label labels ih =>
    intro off rest hfit hd
    obtain ⟨hpos, hlt⟩ := hfit label (by simp)
    have hlen : (UInt8.ofNat label.length).toNat = label.length := by
      rw [UInt8.toNat_ofNat']; omega
    have hd₀ : packet.drop off = UInt8.ofNat label.length ::
      (label ++ (labelBytes labels ++ 0 :: rest)) := by
      simp [hd, labelBytes]
    have hd₁ : packet.drop (off + 1) = label ++ (labelBytes labels ++ 0 :: rest) :=
      drop_succ_of_drop hd₀
    have hd₂ := drop_of_drop _ hd₁
    have hw := ih (fun l hl => hfit l (by simp [hl])) hd₂
    rw [octets_cons, show off + (1 + label.length + octets labels + 1) =
      off + 1 + label.length + (octets labels + 1) by omega]
    refine .label ?_ (by omega) (by omega) hlen.symm ?_ (hlen.symm ▸ hw)
    · rw [← Nat.add_zero off, ← List.getElem?_drop, hd₀]
      rfl
    · rw [hlen, hd₂, hd₁]

theorem Name.fromWire_of_drop {labels : List (List UInt8)} {off : ℕ} {rest : List UInt8}
    (hfit : ∀ label ∈ labels, 0 < label.length ∧ label.length < 64) (hlen : 1 + octets labels ≤ 255)
    (hd : packet.drop off = labelBytes labels ++ 0 :: rest) :
    Name.fromWire packet off = .ok (⟨labels⟩, off + (octets labels + 1)) :=
  Name.fromWire_eq_ok_iff.mpr ⟨0, by omega, hlen, wireName_of_drop hfit hd⟩

/-- A record is read from its name and its fields. -/
theorem unpackRr_of_drop {off next : ℕ} {name : Name} {rtype rclass : UInt16} {ttl : UInt32}
    {rdata rest : List UInt8} (hname : Name.fromWire packet off = .ok (name, next))
      (hfit : rdata.length < 65536)
    (hd : packet.drop next = u16Bytes rtype ++ (u16Bytes rclass ++ (u32Bytes ttl ++
      (u16Bytes (UInt16.ofNat rdata.length) ++ (rdata ++ rest))))) :
    unpackRr packet off = .ok (⟨name, RrType.fromU16 rtype, rclass, ttl, rdata⟩,
      next + 10 + rdata.length) := by
  have hrd : (UInt16.ofNat rdata.length).toNat = rdata.length := by
    rw [UInt16.toNat_ofNat']; omega
  have hlen := length_of_drop hd (by simp [u16Bytes])
  have hd₂ := drop_of_drop _ hd
  have hd₄ := drop_of_drop _ hd₂
  have hd₈ := drop_of_drop _ hd₄
  have hd₁₀ := drop_of_drop _ hd₈
  have hend := drop_of_drop _ hd₁₀
  simp only [List.length_append, length_u16Bytes, length_u32Bytes, Nat.add_assoc,
    Nat.reduceAdd] at hlen hd₂ hd₄ hd₈ hd₁₀ hend
  rw [← hend] at hd₁₀
  simp only [unpackRr, hname, ok_bind, ensure_pos (show ¬ packet.length - next <
    10 by omega), readU16_of_drop hd,
    readU16_of_drop hd₂, readU32_of_drop hd₄, readU16_of_drop hd₈, hrd,
    ensure_pos (show ¬ packet.length - (next + 10) < rdata.length by omega)]
  rw [slice_of_drop rfl (by omega) (by rw [hd₁₀, Nat.add_assoc]), ok_bind]
  rfl

/-- A record stands in a packet: its name ends where its other fields begin. -/
structure RecordFields (packet : List UInt8) (off fields next : ℕ) (rr : ResourceRecord) : Prop where
  /-- The name. -/
  name : Name.fromWire packet off = .ok (rr.name, fields)
  /-- The type. -/
  rrType : rr.rrType = RrType.fromU16 (be16At packet fields)
  /-- The class. -/
  rrClass : rr.rrClass = be16At packet (fields + 2)
  /-- The TTL. -/
  ttl : rr.ttl = be32At packet (fields + 4)
  /-- The length of the data. -/
  rdlength : rr.rdata.length = (be16At packet (fields + 8)).toNat
  /-- The data. -/
  rdata : packet.drop (fields + 10) = rr.rdata ++ packet.drop next
  /-- Where it ends. -/
  next_eq : next = fields + 10 + rr.rdata.length
  /-- The packet goes as far. -/
  next_le : next ≤ packet.length

/-- **A record that is read**, field by field. -/
theorem unpackRr_at {off next : ℕ} {rr : ResourceRecord}
    (h : unpackRr packet off = .ok (rr, next)) : ∃ fields, RecordFields packet off fields next rr := by
  simp only [unpackRr, bind_eq_ok, Prod.exists, ensure_eq_ok, readU16_eq_ok] at h
  obtain ⟨name, e, hname, _, hroom, _, ⟨-, rfl⟩, _, ⟨-, rfl⟩, ttl, httl, _, ⟨-, rfl⟩, _, hrd,
    rdata, hrdata, h⟩ := h
  cases h
  rw [readU32_pos (by omega)] at httl
  rw [slice_pos ⟨Nat.le_add_right .., by omega⟩] at hrdata
  cases httl
  cases hrdata
  have hdata : ((packet.take (e + 10 + (be16At packet (e + 8)).toNat)).drop (e + 10)).length =
      (be16At packet (e + 8)).toNat := by
    rw [List.length_drop, List.length_take]
    omega
  have hcut : packet.drop (e + 10) = (packet.take
    (e + 10 + (be16At packet (e + 8)).toNat)).drop (e + 10) ++
      packet.drop (e + 10 + (be16At packet (e + 8)).toNat) := by
    rw [List.drop_take, Nat.add_sub_cancel_left]
    exact drop_eq_take_append ..
  exact ⟨e, hname, rfl, rfl, rfl, hdata, hcut, by rw [hdata], by omega⟩

/-- The bytes of a record that is read. -/
theorem unpackRr_fields {off next : ℕ} {rr : ResourceRecord}
    (h : unpackRr packet off = .ok (rr, next)) : ∃ e rtype,
      Name.fromWire packet off = .ok (rr.name, e) ∧ rr.rrType = RrType.fromU16 rtype ∧
      rr.rdata.length < 65536 ∧ next = e + 10 + rr.rdata.length ∧ next ≤ packet.length ∧
      packet.drop e = u16Bytes rtype ++ (u16Bytes rr.rrClass ++ (u32Bytes rr.ttl ++
        (u16Bytes (UInt16.ofNat rr.rdata.length) ++ (rr.rdata ++ packet.drop next)))) := by
  obtain ⟨e, hname, htype, hclass, httl, hlen, hdata, hnext, hle⟩ := unpackRr_at h
  refine ⟨e, be16At packet e, hname, htype, hlen ▸ UInt16.toNat_lt _, hnext, hle, ?_⟩
  rw [drop_eq_u16Bytes (show e + 2 ≤ packet.length by omega),
    drop_eq_u16Bytes (show e + 2 + 2 ≤ packet.length by omega),
    drop_eq_u32Bytes (show e + 4 + 4 ≤ packet.length by omega),
    drop_eq_u16Bytes (show e + 8 + 2 ≤ packet.length by omega), hdata, hclass, httl, hlen,
    UInt16.ofNat_toNat]

/-- A record takes bytes. -/
theorem lt_next_of_unpackRr {off next : ℕ} {rr : ResourceRecord} (h : unpackRr packet off = .ok (rr, next)) :
    off < next ∧ next ≤ packet.length := by
  obtain ⟨e, _, hn, -, -, hnext, hle, -⟩ := unpackRr_fields h
  obtain ⟨_, -, -, hwire⟩ := Name.fromWire_eq_ok_iff.mp hn
  have := hwire.lt_next
  omega

/-- The first of some questions. -/
theorem Msg.unpackQuestions_succ {n off stop : ℕ} {questions : List Question}
    (h : Msg.unpackQuestions packet (n + 1) off = .ok (questions, stop)) :
    ∃ name e rest, Name.fromWire packet off = .ok (name, e) ∧ off < e ∧ e + 4 ≤ packet.length ∧
      Msg.unpackQuestions packet n (e + 4) = .ok (rest, stop) ∧
      questions = ⟨name, RrType.fromU16 (be16At packet e), be16At packet (e + 2)⟩ :: rest := by
  simp only [Msg.unpackQuestions, bind_eq_ok, Prod.exists, ensure_eq_ok, readU16_eq_ok] at h
  obtain ⟨name, e, hname, _, hroom, _, ⟨-, rfl⟩, _, ⟨hle, rfl⟩, rest, _, hrest, h⟩ := h
  cases h
  obtain ⟨_, -, -, hwire⟩ := Name.fromWire_eq_ok_iff.mp hname
  exact ⟨name, e, rest, hname, hwire.lt_next.1, by omega, hrest, rfl⟩

/-- The first of some records. -/
theorem unpackRrSection_succ {n off stop : ℕ} {records : List ResourceRecord}
    (h : unpackRrSection packet (n + 1) off = .ok (records, stop)) : ∃ rr e rest,
      unpackRr packet off = .ok (rr, e) ∧ unpackRrSection packet n e = .ok (rest, stop) ∧
      records = rr :: rest := by
  simp only [unpackRrSection, bind_eq_ok, Prod.exists] at h
  obtain ⟨rr, e, hrr, rest, _, hrest, h⟩ := h
  cases h
  exact ⟨rr, e, rest, hrr, hrest, rfl⟩

/-- What is read in one can be read in two. -/
theorem unpackRrSection_split {m : ℕ} : ∀ {n off stop : ℕ} {records : List ResourceRecord},
    unpackRrSection packet (n + m) off = .ok (records, stop) → ∃ rs mid ss,
      unpackRrSection packet n off = .ok (rs, mid) ∧
      unpackRrSection packet m mid = .ok (ss, stop) ∧ records = rs ++ ss := by
  intro n
  induction n with
  | zero =>
    intro off stop records h
    rw [Nat.zero_add] at h
    exact ⟨[], off, records, rfl, h, rfl⟩
  | succ n ih =>
    intro off stop records h
    rw [Nat.succ_add] at h
    obtain ⟨rr, e, rest, hrr, hrest, rfl⟩ := unpackRrSection_succ h
    obtain ⟨rs, mid, ss, hrs, hss, rfl⟩ := ih hrest
    refine ⟨rr :: rs, mid, ss, ?_, hss, rfl⟩
    simp only [unpackRrSection, hrr, ok_bind, hrs, pure_eq_ok]

/-- The sections of a packet are read as one. -/
theorem unpackRrSection_add {m : ℕ} : ∀ {n off mid stop : ℕ} {rs ss : List ResourceRecord},
    unpackRrSection packet n off = .ok (rs, mid) → unpackRrSection packet m mid = .ok (ss, stop) →
      unpackRrSection packet (n + m) off = .ok (rs ++ ss, stop) := by
  intro n
  induction n with
  | zero =>
    intro off mid stop rs ss h h'
    cases h
    rw [Nat.zero_add]
    exact h'
  | succ n ih =>
    intro off mid stop rs ss h h'
    obtain ⟨rr, e, rest, hrr, hrest, rfl⟩ := unpackRrSection_succ h
    rw [Nat.succ_add, unpackRrSection, hrr, ok_bind]
    dsimp only
    rw [ih hrest h', ok_bind]
    rfl

end

/-- What an accepted packet unpacks to, part by part. -/
theorem Msg.unpack_eq_ok {packet : List UInt8} {m : Msg} : Msg.unpack packet = .ok m ↔
    dnsHeaderSize ≤ packet.length ∧ m.header = MsgHeader.fromWire (be16At packet 0)
      (be16At packet 2) ∧
      m.compress = false ∧ ∃ o₁ o₂ o₃,
        unpackQuestions packet (be16At packet 4).toNat dnsHeaderSize = .ok (m.questions, o₁) ∧
        unpackRrSection packet (be16At packet 6).toNat o₁ = .ok (m.answers, o₂) ∧
        unpackRrSection packet (be16At packet 8).toNat o₂ = .ok (m.authorities, o₃) ∧
        unpackRrSection packet (be16At packet 10).toNat o₃ = .ok (m.additionals,
          packet.length) := by
  by_cases hlen : dnsHeaderSize ≤ packet.length
  · have hread : ∀ i, i ≤ 10 → (readU16 packet i : Outcome MsgError UInt16) =
      .ok (be16At packet i) :=
      fun i hi => readU16_pos (Nat.le_trans (Nat.add_le_add_right hi 2) hlen)
    simp only [unpack, ensure_pos (Nat.not_lt.mpr hlen), ok_bind,
      hread 0 (by decide), hread 2 (by decide),
      hread 4 (by decide), hread 6 (by decide), hread 8 (by decide), hread 10 (by decide),
        bind_eq_ok, Prod.exists,
      ensure_eq_ok, pure_eq_ok, Outcome.ok.injEq]
    constructor
    · rintro ⟨_, o₁, h₁, _, o₂, h₂, _, o₃, h₃, _, o₄, h₄, _, rfl, rfl⟩
      exact ⟨hlen, rfl, rfl, o₁, o₂, o₃, h₁, h₂, h₃, h₄⟩
    · obtain ⟨header, compress, questions, answers, authorities, additionals⟩ := m
      rintro ⟨_, rfl, rfl, o₁, o₂, o₃, h₁, h₂, h₃, h₄⟩
      exact ⟨_, o₁, h₁, _, o₂, h₂, _, o₃, h₃, _, _, h₄, (), rfl, rfl⟩
  · simp only [unpack, ensure_neg (not_not.mpr (Nat.not_le.mp hlen)), err_bind, hlen,
      false_and, reduceCtorEq]

end DohProxy.Upstream
