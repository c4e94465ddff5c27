import DohProxy.Upstream.Msg
import Mathlib.Data.Nat.Bitwise

/-!
# Packing messages

`Msg.pack` writes a message out as a packet. It never compresses a name.

## What is proved

`Msg.pack_unpack` — **what was unpacked is packed again, and unpacks to the same message.** It is
the same packet where that has no compression pointer.
-/

namespace DohProxy.Upstream

open Lib Outcome

/-! ### Writing -/

/-- The flags of a header. -/
def MsgHeader.toWireBits (header : MsgHeader) : UInt16 :=
  let bits := (header.opcode.toUInt16 &&& 0x0f) <<< 11
  let bits := if header.response then bits ||| 0x8000 else bits
  let bits := if header.authoritative then bits ||| 0x0400 else bits
  let bits := if header.truncated then bits ||| 0x0200 else bits
  let bits := if header.recursionDesired then bits ||| 0x0100 else bits
  let bits := if header.recursionAvailable then bits ||| 0x0080 else bits
  let bits := if header.zero then bits ||| 0x0040 else bits
  let bits := if header.authenticatedData then bits ||| 0x0020 else bits
  let bits := if header.checkingDisabled then bits ||| 0x0010 else bits
  bits ||| (header.rcode.toUInt16 &&& 0x0f)

/-- The loop of `pack_into`, and the root byte. -/
def packLabels : List (List UInt8) → List UInt8 → Outcome MsgError (List UInt8)
  | [], out => return out ++ [0]
  | label :: labels, out => do
    ensure (¬ 0x40 ≤ label.length) .invalidLabelLength
    packLabels labels (out ++ UInt8.ofNat label.length :: label)

/-- A name is written after `out`. -/
def Name.packInto (name : Name) (out : List UInt8) : Outcome MsgError (List UInt8) :=
  packLabels name.labels out

/-- The questions are written after `out`. -/
def packQuestions : List Question → List UInt8 → Outcome MsgError (List UInt8)
  | [], out => return out
  | q :: questions, out => do
    let out ← q.name.packInto out
    packQuestions questions (out ++ u16Bytes q.qtype.toU16 ++ u16Bytes q.qclass)

/-- A record is written after `out`. -/
def packRr (rr : ResourceRecord) (out : List UInt8) : Outcome MsgError (List UInt8) := do
  ensure (¬ 0xffff < rr.rdata.length) .rdataTooLong
  let out ← rr.name.packInto out
  return out ++ u16Bytes rr.rrType.toU16 ++ u16Bytes rr.rrClass ++ u32Bytes rr.ttl ++
    u16Bytes (UInt16.ofNat rr.rdata.length) ++ rr.rdata

/-- The records of a section are written after `out`. -/
def packRrs : List ResourceRecord → List UInt8 → Outcome MsgError (List UInt8)
  | [], out => return out
  | rr :: records, out => do
    let out ← packRr rr out
    packRrs records out

/-- The number of records of a section, where it fits. -/
def sectionCount (n : ℕ) : Outcome MsgError UInt16 :=
  if n < 65536 then .ok (UInt16.ofNat n) else .err .invalidRecord

/-- The packet a message makes. -/
def Msg.pack (m : Msg) : Outcome MsgError (List UInt8) := do
  let qdcount ← sectionCount m.questions.length
  let ancount ← sectionCount m.answers.length
  let nscount ← sectionCount m.authorities.length
  let arcount ← sectionCount m.additionals.length
  let out := List.replicate dnsHeaderSize 0
  let out ← writeU16 out 0 m.header.id
  let out ← writeU16 out 2 m.header.toWireBits
  let out ← writeU16 out 4 qdcount
  let out ← writeU16 out 6 ancount
  let out ← writeU16 out 8 nscount
  let out ← writeU16 out 10 arcount
  let out ← packQuestions m.questions out
  let out ← packRrs m.answers out
  let out ← packRrs m.authorities out
  packRrs m.additionals out

/-! ### Flags -/

theorem nibble_toUInt8 (x : UInt16) : (x &&& 0x0f).toUInt8.toUInt16 &&& 0x0f = x &&& 0x0f := by
  apply UInt16.toNat_inj.mp
  have hle : x.toNat &&& 15 < 256 := Nat.lt_of_le_of_lt Nat.and_le_right (by decide)
  calc (x.toNat &&& 15) % 256 &&& 15 = x.toNat &&& 15 &&& 15 := by rw [Nat.mod_eq_of_lt hle]
    _ = x.toNat &&& 15 := Nat.and_assoc ..

theorem opcode_bits (bits : UInt16) : (bits >>> 11 &&& 0x0f) <<< 11 = bits &&& 0x7800 := by
  apply UInt16.toBitVec_inj.mp
  apply BitVec.eq_of_getLsbD_eq
  intro i hi
  interval_cases i <;> simp

/-- A flag is set or not. -/
theorem and_flag {i : ℕ} (hi : i < 16) (bits : UInt16) :
    bits &&& UInt16.ofNat (2 ^ i) = 0 ∨ bits &&& UInt16.ofNat (2 ^ i) = UInt16.ofNat (2 ^ i) := by
  have hmask : (UInt16.ofNat (2 ^ i)).toNat = 2 ^ i :=
    UInt16.toNat_ofNat_of_lt (Nat.pow_lt_pow_right (by decide) hi)
  rw [← UInt16.toNat_inj, ← UInt16.toNat_inj, UInt16.toNat_and, hmask, Nat.and_two_pow]
  cases bits.toNat.testBit i <;> simp

/-- A flag that was read is written as it was. -/
theorem or_flag {i : ℕ} (hi : i < 16) (bits acc : UInt16) :
    (if (bits &&& UInt16.ofNat (2 ^ i) != 0) = true then acc ||| UInt16.ofNat (2 ^ i) else acc) =
      acc ||| (bits &&& UInt16.ofNat (2 ^ i)) := by
  rcases and_flag hi bits with h | h
  · rw [h, UInt16.or_zero]
    rfl
  · by_cases h0 : UInt16.ofNat (2 ^ i) = 0
    · simp [h0]
    · simp [h, h0]

/-- **The flags that were read are written as they were.** -/
theorem MsgHeader.toWireBits_fromWire (id bits : UInt16) :
    (MsgHeader.fromWire id bits).toWireBits = bits := by
  have hor : ∀ x y : UInt16, bits &&& x ||| bits &&& y = bits &&& (x ||| y) := fun x y =>
    UInt16.toBitVec_inj.mp BitVec.and_or_distrib_left.symm
  have h15 : ∀ acc, (if (bits &&& 0x8000 != 0) = true then acc ||| 0x8000
    else acc) = acc ||| (bits &&& 0x8000) :=
    or_flag (show 15 < 16 by decide) bits
  have h10 : ∀ acc, (if (bits &&& 0x0400 != 0) = true then acc ||| 0x0400
    else acc) = acc ||| (bits &&& 0x0400) :=
    or_flag (show 10 < 16 by decide) bits
  have h9 : ∀ acc, (if (bits &&& 0x0200 != 0) = true then acc ||| 0x0200
    else acc) = acc ||| (bits &&& 0x0200) :=
    or_flag (show 9 < 16 by decide) bits
  have h8 : ∀ acc, (if (bits &&& 0x0100 != 0) = true then acc ||| 0x0100
    else acc) = acc ||| (bits &&& 0x0100) :=
    or_flag (show 8 < 16 by decide) bits
  have h7 : ∀ acc, (if (bits &&& 0x0080 != 0) = true then acc ||| 0x0080
    else acc) = acc ||| (bits &&& 0x0080) :=
    or_flag (show 7 < 16 by decide) bits
  have h6 : ∀ acc, (if (bits &&& 0x0040 != 0) = true then acc ||| 0x0040
    else acc) = acc ||| (bits &&& 0x0040) :=
    or_flag (show 6 < 16 by decide) bits
  have h5 : ∀ acc, (if (bits &&& 0x0020 != 0) = true then acc ||| 0x0020
    else acc) = acc ||| (bits &&& 0x0020) :=
    or_flag (show 5 < 16 by decide) bits
  have h4 : ∀ acc, (if (bits &&& 0x0010 != 0) = true then acc ||| 0x0010
    else acc) = acc ||| (bits &&& 0x0010) :=
    or_flag (show 4 < 16 by decide) bits
  have hall : ∀ mask : UInt16, mask = 0xffff → bits &&& mask = bits := by
    rintro _ rfl
    exact UInt16.and_neg_one
  simp only [toWireBits, fromWire, nibble_toUInt8, opcode_bits, h15, h10, h9, h8, h7,
    h6, h5, h4, hor]
  exact hall _ (by decide)

/-! ### Messages that can be packed -/

/-- A name within the limits. -/
structure Name.Fits (name : Name) : Prop where
  labels : ∀ label ∈ name.labels, 0 < label.length ∧ label.length < 64
  octets : 1 + octets name.labels ≤ 255

/-- A type that is not another name for a type with a name. -/
def RrType.Fits (t : RrType) : Prop := RrType.fromU16 t.toU16 = t

/-- A question that can be packed. -/
structure Question.Fits (q : Question) : Prop where
  name : q.name.Fits
  qtype : q.qtype.Fits

/-- A record that can be packed. -/
structure ResourceRecord.Fits (rr : ResourceRecord) : Prop where
  name : rr.name.Fits
  rrType : rr.rrType.Fits
  rdata : rr.rdata.length < 65536

/-- The records of a section that can be packed. -/
structure SectionFits (records : List ResourceRecord) : Prop where
  count : records.length < 65536
  record : ∀ rr ∈ records, rr.Fits

/-- A message that can be packed. -/
structure Msg.Fits (m : Msg) : Prop where
  header : MsgHeader.fromWire m.header.id m.header.toWireBits = m.header
  compress : m.compress = false
  count : m.questions.length < 65536
  question : ∀ q ∈ m.questions, q.Fits
  answers : SectionFits m.answers
  authorities : SectionFits m.authorities
  additionals : SectionFits m.additionals

theorem RrType.fits_fromU16 (code : UInt16) : (RrType.fromU16 code).Fits := by
  rw [RrType.Fits, RrType.toU16_fromU16]

section

variable {packet : List UInt8} {off next n : ℕ}

theorem Name.fits_of_fromWire {name : Name} (h : Name.fromWire packet off = .ok (name, next)) :
    name.Fits := by
  obtain ⟨_, _, hoctets, hname⟩ := Name.fromWire_eq_ok_iff.mp h
  exact ⟨hname.labels_fit, hoctets⟩

/-- The questions that are unpacked are as many as they are said to be, and can be packed. -/
theorem fits_of_unpackQuestions : ∀ {n off next : ℕ} {questions : List Question},
    Msg.unpackQuestions packet n off = .ok (questions, next) →
      questions.length = n ∧ ∀ q ∈ questions, q.Fits := by
  intro n
  induction n with
  | zero =>
    intro off next questions h
    cases h
    exact ⟨rfl, fun _ h => absurd h List.not_mem_nil⟩
  | succ n ih =>
    intro off next questions h
    obtain ⟨name, e, rest, hname, -, -, hrest, rfl⟩ := Msg.unpackQuestions_succ h
    obtain ⟨hlen, hfits⟩ := ih hrest
    refine ⟨congrArg (· + 1) hlen, List.forall_mem_cons.mpr ⟨?_, hfits⟩⟩
    exact ⟨Name.fits_of_fromWire hname, RrType.fits_fromU16 (be16At packet e)⟩

/-- A record that is unpacked can be packed. -/
theorem fits_of_unpackRr {rr : ResourceRecord}
    (h : unpackRr packet off = .ok (rr, next)) : rr.Fits := by
  obtain ⟨e, rtype, hname, htype, hfit, -⟩ := unpackRr_fields h
  exact ⟨Name.fits_of_fromWire hname, htype ▸ RrType.fits_fromU16 rtype, hfit⟩

/-- The records that are unpacked are as many as they are said to be, and can be packed. -/
theorem fits_of_unpackRrSection : ∀ {n off next : ℕ} {records : List ResourceRecord},
    unpackRrSection packet n off = .ok (records, next) → records.length = n ∧
      ∀ rr ∈ records, rr.Fits := by
  intro n
  induction n with
  | zero =>
    intro off next records h
    cases h
    exact ⟨rfl, fun _ h => absurd h List.not_mem_nil⟩
  | succ n ih =>
    intro off next records h
    obtain ⟨rr, _, rest, hrr, hrest, rfl⟩ := unpackRrSection_succ h
    obtain ⟨hlen, hfits⟩ := ih hrest
    exact ⟨congrArg (· + 1) hlen, List.forall_mem_cons.mpr ⟨fits_of_unpackRr hrr, hfits⟩⟩

theorem sectionFits_of_unpackRrSection {count : UInt16} {records : List ResourceRecord}
    (h : unpackRrSection packet count.toNat off = .ok (records, next)) : SectionFits records := by
  obtain ⟨hlen, hfits⟩ := fits_of_unpackRrSection h
  exact ⟨hlen ▸ count.toNat_lt, hfits⟩

end

/-- **What is unpacked can be packed.** -/
theorem Msg.fits_of_unpack {packet : List UInt8} {m : Msg}
    (h : Msg.unpack packet = .ok m) : m.Fits := by
  obtain ⟨-, hheader, hcompress, o₁, o₂, o₃, h₁, h₂, h₃, h₄⟩ := unpack_eq_ok.mp h
  obtain ⟨hlen, hquestion⟩ := fits_of_unpackQuestions h₁
  refine ⟨?_, hcompress, hlen ▸ UInt16.toNat_lt _, hquestion, sectionFits_of_unpackRrSection h₂,
    sectionFits_of_unpackRrSection h₃, sectionFits_of_unpackRrSection h₄⟩
  rw [hheader, MsgHeader.toWireBits_fromWire]
  rfl

/-! ### The packet of a message -/

/-- A name as it is written out. -/
def Name.bytes (name : Name) : List UInt8 := labelBytes name.labels ++ [0]

/-- A question as it is written out. -/
def Question.bytes (q : Question) : List UInt8 :=
  q.name.bytes ++ (u16Bytes q.qtype.toU16 ++ u16Bytes q.qclass)

/-- A record as it is written out. -/
def ResourceRecord.bytes (rr : ResourceRecord) : List UInt8 :=
  rr.name.bytes ++ (u16Bytes rr.rrType.toU16 ++ (u16Bytes rr.rrClass ++ (u32Bytes rr.ttl ++
    (u16Bytes (UInt16.ofNat rr.rdata.length) ++ rr.rdata))))

/-- A header with the number of records in each section. -/
def headerBytes (id bits qdcount ancount nscount arcount : UInt16) : List UInt8 :=
  u16Bytes id ++ (u16Bytes bits ++ (u16Bytes qdcount ++
    (u16Bytes ancount ++ (u16Bytes nscount ++ u16Bytes arcount))))

/-- A message as it is written out. -/
def Msg.bytes (m : Msg) : List UInt8 :=
  headerBytes m.header.id m.header.toWireBits (UInt16.ofNat m.questions.length)
    (UInt16.ofNat m.answers.length)
      (UInt16.ofNat m.authorities.length) (UInt16.ofNat m.additionals.length) ++
    (m.questions.flatMap Question.bytes ++ (m.answers.flatMap ResourceRecord.bytes ++
      (m.authorities.flatMap ResourceRecord.bytes ++ m.additionals.flatMap ResourceRecord.bytes)))

theorem length_name_bytes (name : Name) : name.bytes.length = octets name.labels + 1 := by
  rw [Name.bytes, List.length_append, length_labelBytes]
  rfl

theorem packLabels_eq {labels : List (List UInt8)}
    (h : ∀ label ∈ labels, 0 < label.length ∧ label.length < 64) :
    ∀ out, packLabels labels out = .ok (out ++ (labelBytes labels ++ [0])) := by
  induction labels with
  | nil => exact fun out => rfl
  | cons label labels ih =>
    obtain ⟨⟨-, hlt⟩, hrest⟩ := List.forall_mem_cons.mp h
    intro out
    rw [packLabels, ensure_pos (Nat.not_le.mpr hlt), ok_bind, ih hrest]
    simp [labelBytes]

theorem Name.packInto_eq {name : Name} (h : name.Fits) (out : List UInt8) :
    name.packInto out = .ok (out ++ name.bytes) :=
  packLabels_eq h.labels out

theorem packQuestions_eq {questions : List Question} (h : ∀ q ∈ questions, q.Fits) :
    ∀ out, packQuestions questions out = .ok (out ++ questions.flatMap Question.bytes) := by
  induction questions with
  | nil => exact fun out => congrArg Outcome.ok (List.append_nil out).symm
  | cons q questions ih =>
    obtain ⟨hq, hrest⟩ := List.forall_mem_cons.mp h
    intro out
    rw [packQuestions, Name.packInto_eq hq.name, ok_bind, ih hrest]
    simp [Question.bytes]

theorem packRr_eq {rr : ResourceRecord} (h : rr.Fits) (out : List UInt8) :
    packRr rr out = .ok (out ++ rr.bytes) := by
  rw [packRr, ensure_pos (Nat.not_lt.mpr (Nat.le_of_lt_succ h.rdata)), ok_bind,
    Name.packInto_eq h.name, ok_bind]
  simp [ResourceRecord.bytes]

theorem packRrs_eq {records : List ResourceRecord} (h : ∀ rr ∈ records, rr.Fits) :
    ∀ out, packRrs records out = .ok (out ++ records.flatMap ResourceRecord.bytes) := by
  induction records with
  | nil => exact fun out => congrArg Outcome.ok (List.append_nil out).symm
  | cons rr records ih =>
    obtain ⟨hrr, hrest⟩ := List.forall_mem_cons.mp h
    intro out
    rw [packRrs, packRr_eq hrr, ok_bind, ih hrest]
    simp

/-- The header is written over the zeros that stand in its place. -/
theorem setU16_header (id bits qdcount ancount nscount arcount : UInt16) :
    setU16 (setU16 (setU16 (setU16 (setU16 (setU16 (List.replicate dnsHeaderSize 0) 0 id) 2 bits) 4
      qdcount) 6 ancount)
      8 nscount) 10 arcount = headerBytes id bits qdcount ancount nscount arcount := rfl

/-- **A message that can be packed is written out.** -/
theorem Msg.pack_eq {m : Msg} (h : m.Fits) : m.pack = .ok m.bytes := by
  have hcount : ∀ {k : ℕ}, k < 65536 → sectionCount k = .ok (UInt16.ofNat k) := fun h => if_pos h
  have hwrite : ∀ {bs : List UInt8} {i : ℕ} (v : UInt16), bs.length = 12 → i ≤ 10 →
      (writeU16 bs i v : Outcome MsgError (List UInt8)) = .ok (setU16 bs i v) :=
    fun v hlen hi => writeU16_pos (hlen ▸ Nat.add_le_add_right hi 2) v
  rw [pack, hcount h.count, ok_bind, hcount h.answers.count, ok_bind,
    hcount h.authorities.count, ok_bind,
    hcount h.additionals.count, ok_bind]
  dsimp only
  rw [hwrite _ (by simp) (by decide), ok_bind, hwrite _ (by simp) (by decide), ok_bind,
    hwrite _ (by simp) (by decide), ok_bind, hwrite _ (by simp) (by decide), ok_bind,
      hwrite _ (by simp) (by decide),
    ok_bind, hwrite _ (by simp) (by decide), ok_bind, setU16_header,
      packQuestions_eq h.question, ok_bind,
    packRrs_eq h.answers.record, ok_bind, packRrs_eq h.authorities.record, ok_bind,
      packRrs_eq h.additionals.record]
  simp only [Msg.bytes, List.append_assoc]

/-! ### Unpacking what was packed -/

section

variable {packet rest : List UInt8} {off : ℕ}

/-- A name is read where it was written. -/
theorem Name.fromWire_bytes {name : Name} (h : name.Fits)
    (hd : packet.drop off = name.bytes ++ rest) :
    Name.fromWire packet off = .ok (name, off + name.bytes.length) := by
  rw [Name.bytes, List.append_assoc] at hd
  rw [length_name_bytes]
  exact Name.fromWire_of_drop h.labels h.octets hd

theorem unpackQuestions_bytes {questions : List Question}
    (h : ∀ q ∈ questions, q.Fits) : ∀ {off : ℕ},
    packet.drop off = questions.flatMap Question.bytes ++ rest →
      Msg.unpackQuestions packet questions.length off =
        .ok (questions, off + (questions.flatMap Question.bytes).length) := by
  induction questions with
  | nil => exact fun _ => rfl
  | cons q questions ih =>
    intro off hd
    obtain ⟨hq, hrest⟩ := List.forall_mem_cons.mp h
    rw [List.flatMap_cons, List.append_assoc, Question.bytes, List.append_assoc] at hd
    have hd₁ := drop_of_drop _ hd
    have hd₂ : packet.drop (off + q.name.bytes.length) = u16Bytes q.qtype.toU16 ++
        (u16Bytes q.qclass ++ (questions.flatMap Question.bytes ++ rest)) := by
          rw [hd₁, List.append_assoc]
    have hd₃ := drop_of_drop _ hd₂
    have hd₄ := drop_of_drop _ hd₁
    have hlen := length_of_drop hd₁ (by simp [u16Bytes])
    simp only [List.length_append, length_u16Bytes, Nat.reduceAdd] at hd₃ hd₄ hlen
    have hroom : ¬ packet.length - (off + q.name.bytes.length) < 4 := by omega
    rw [List.length_cons, Msg.unpackQuestions, Name.fromWire_bytes hq.name hd, ok_bind]
    dsimp only
    rw [ensure_pos hroom, ok_bind, readU16_of_drop hd₂, ok_bind, readU16_of_drop hd₃,
      ok_bind, ih hrest hd₄, ok_bind,
      hq.qtype]
    simp only [List.flatMap_cons, List.length_append, Question.bytes, length_u16Bytes,
      Nat.reduceAdd, Nat.add_assoc,
      pure_eq_ok]

theorem unpackRrSection_bytes {records : List ResourceRecord}
    (h : ∀ rr ∈ records, rr.Fits) : ∀ {off : ℕ},
    packet.drop off = records.flatMap ResourceRecord.bytes ++ rest →
      unpackRrSection packet records.length off =
        .ok (records, off + (records.flatMap ResourceRecord.bytes).length) := by
  induction records with
  | nil => exact fun _ => rfl
  | cons rr records ih =>
    intro off hd
    obtain ⟨hrr, hrest⟩ := List.forall_mem_cons.mp h
    rw [List.flatMap_cons, List.append_assoc] at hd
    have hd₁ := drop_of_drop _ hd
    have hname := hd
    rw [ResourceRecord.bytes, List.append_assoc] at hname
    have hfields := drop_of_drop _ hname
    simp only [List.append_assoc] at hfields
    have hread := unpackRr_of_drop (Name.fromWire_bytes hrr.name hname) hrr.rdata hfields
    have hend : off + rr.name.bytes.length + 10 + rr.rdata.length = off + rr.bytes.length := by
      simp only [ResourceRecord.bytes, List.length_append, length_u16Bytes, length_u32Bytes]
      omega
    rw [hend, hrr.rrType] at hread
    rw [List.length_cons, unpackRrSection, hread, ok_bind]
    dsimp only
    rw [ih hrest hd₁, ok_bind, List.flatMap_cons, List.length_append, Nat.add_assoc]
    rfl

end

/-- **A message that can be packed is unpacked from what it makes.** -/
theorem Msg.unpack_bytes {m : Msg} (h : m.Fits) : Msg.unpack m.bytes = .ok m := by
  have hofNat : ∀ {k : ℕ}, k < 65536 → (UInt16.ofNat k).toNat = k :=
    fun hk => UInt16.toNat_ofNat_of_lt hk
  have hcounts : be16At m.bytes 0 = m.header.id ∧ be16At m.bytes 2 = m.header.toWireBits ∧
      (be16At m.bytes 4).toNat = m.questions.length ∧ (be16At m.bytes 6).toNat = m.answers.length ∧
      (be16At m.bytes 8).toNat = m.authorities.length ∧
        (be16At m.bytes 10).toNat = m.additionals.length := by
    refine ⟨be16_hi_lo _, be16_hi_lo _, ?_, ?_, ?_, ?_⟩
    · exact (congrArg UInt16.toNat (be16_hi_lo _)).trans (hofNat h.count)
    · exact (congrArg UInt16.toNat (be16_hi_lo _)).trans (hofNat h.answers.count)
    · exact (congrArg UInt16.toNat (be16_hi_lo _)).trans (hofNat h.authorities.count)
    · exact (congrArg UInt16.toNat (be16_hi_lo _)).trans (hofNat h.additionals.count)
  obtain ⟨hid, hbits, hqd, han, hns, har⟩ := hcounts
  have hd₀ : m.bytes.drop dnsHeaderSize = m.questions.flatMap Question.bytes ++ _ :=
    List.drop_left' rfl
  have hd₁ := drop_of_drop _ hd₀
  have hd₂ := drop_of_drop _ hd₁
  have hd₃ := drop_of_drop _ hd₂
  have hd₄ : m.bytes.drop _ = m.additionals.flatMap ResourceRecord.bytes ++ [] :=
    hd₃.trans (List.append_nil _).symm
  have hlen : dnsHeaderSize ≤ m.bytes.length := by
    rw [Msg.bytes, List.length_append]
    exact Nat.le_add_right ..
  have h₁ := unpackQuestions_bytes h.question hd₀
  have h₂ := unpackRrSection_bytes h.answers.record hd₁
  have h₃ := unpackRrSection_bytes h.authorities.record hd₂
  have h₄ := unpackRrSection_bytes h.additionals.record hd₄
  have hend : dnsHeaderSize + (m.questions.flatMap Question.bytes).length +
      (m.answers.flatMap ResourceRecord.bytes).length +
        (m.authorities.flatMap ResourceRecord.bytes).length +
        (m.additionals.flatMap ResourceRecord.bytes).length = m.bytes.length := by
    simp only [Msg.bytes, List.length_append, headerBytes, length_u16Bytes, dnsHeaderSize]
    omega
  rw [← hqd] at h₁
  rw [← han] at h₂
  rw [← hns] at h₃
  rw [← har, hend] at h₄
  refine unpack_eq_ok.mpr ⟨hlen, ?_, h.compress, _, _, _, h₁, h₂, h₃, h₄⟩
  rw [hid, hbits, h.header]

/-! ### Packets without compression -/

/-- What a packet spells at an offset is unique. -/
theorem WireName.unique {packet : List UInt8} {k off next : ℕ} {labels : List (List UInt8)}
    (h : WireName packet k off labels next) : ∀ {k' next' : ℕ} {labels' : List (List UInt8)},
      WireName packet k' off labels' next' → k = k' ∧ labels = labels' ∧ next = next' := by
  induction h with
  | root hb =>
    intro k' next' labels' h'
    cases h' with
    | root => exact ⟨rfl, rfl, rfl⟩
    | label hb' hpos =>
      cases hb.symm.trans hb'
      exact absurd hpos (by decide)
    | pointer hb' hh =>
      cases hb.symm.trans hb'
      exact absurd hh (by decide)
  | @label k off next len bs labels hb hpos hlt hbs hd _ ih =>
    intro k' next' labels' h'
    cases h' with
    | root hb' =>
      cases hb.symm.trans hb'
      exact absurd hpos (by decide)
    | @label _ _ _ len' bs' _ hb' _ _ hbs' hd' h' =>
      obtain rfl := Option.some.inj (hb.symm.trans hb')
      obtain ⟨rfl, rfl, rfl⟩ := ih h'
      have hsame : bs = bs' := List.append_cancel_right (hd.symm.trans hd')
      exact ⟨rfl, hsame ▸ rfl, rfl⟩
    | pointer hb' hh =>
      cases hb.symm.trans hb'
      omega
  | @pointer k off next high low labels hb hh hl _ _ ih =>
    intro k' next' labels' h'
    cases h' with
    | root hb' =>
      cases hb.symm.trans hb'
      exact absurd hh (by decide)
    | label hb' _ hlt =>
      cases hb.symm.trans hb'
      omega
    | pointer hb' _ hl' _ h' =>
      cases hb.symm.trans hb'
      cases hl.symm.trans hl'
      obtain ⟨rfl, rfl, rfl⟩ := ih h'
      exact ⟨rfl, rfl, rfl⟩

/-- The name at an offset uses no compression pointer. -/
def PlainAt (packet : List UInt8) (off : ℕ) : Prop :=
  ∃ labels next, WireName packet 0 off labels next

/-- Where the names of questions stand. -/
def questionOffsets (packet : List UInt8) : ℕ → ℕ → List ℕ
  | 0, _ => []
  | n + 1, off => off :: match Name.fromWire packet off with
    | .ok (_, next) => questionOffsets packet n (next + 4)
    | _ => []

/-- Where the owner names of records stand. -/
def rrOffsets (packet : List UInt8) : ℕ → ℕ → List ℕ
  | 0, _ => []
  | n + 1, off => off :: match unpackRr packet off with
    | .ok (_, next) => rrOffsets packet n next
    | _ => []

/-- Where the question names and the owner names of a packet stand. -/
def nameOffsets (packet : List UInt8) : List ℕ :=
  let qdcount := (be16At packet 4).toNat
  let rrcount := (be16At packet 6).toNat + (be16At packet 8).toNat + (be16At packet 10).toNat
  questionOffsets packet qdcount dnsHeaderSize ++
    match Msg.unpackQuestions packet qdcount dnsHeaderSize with
    | .ok (_, off) => rrOffsets packet rrcount off
    | _ => []

/-- A packet without compression pointers in its question names and owner names. -/
def Uncompressed (packet : List UInt8) : Prop := ∀ off ∈ nameOffsets packet, PlainAt packet off

section

variable {packet : List UInt8}

/-- A name without pointers stands in the packet as it is written out. -/
theorem WireName.drop_of_plain {k off next : ℕ} {labels : List (List UInt8)}
    (h : WireName packet k off labels next)
    (hk : k = 0) : packet.drop off = labelBytes labels ++ 0 :: packet.drop next := by
  induction h with
  | root hb => exact drop_of_getElem? hb
  | @label k off next len bs labels hb _ _ hbs hd _ ih =>
    rw [drop_of_getElem? hb, hd, ih hk]
    have hlen : UInt8.ofNat bs.length = len := by rw [hbs, UInt8.ofNat_toNat]
    simp [labelBytes, hlen]
  | pointer => cases hk

theorem Name.drop_of_plainAt {off next : ℕ} {name : Name}
    (h : Name.fromWire packet off = .ok (name, next))
    (hplain : PlainAt packet off) : packet.drop off = name.bytes ++ packet.drop next := by
  obtain ⟨k, -, -, hname⟩ := Name.fromWire_eq_ok_iff.mp h
  obtain ⟨labels, _, hplain⟩ := hplain
  rw [hname.drop_of_plain (hname.unique hplain).1, Name.bytes, List.append_assoc]
  rfl

theorem drop_of_unpackQuestions : ∀ {n off next : ℕ} {questions : List Question},
    Msg.unpackQuestions packet n off = .ok (questions, next) →
      (∀ o ∈ questionOffsets packet n off, PlainAt packet o) →
        packet.drop off = questions.flatMap Question.bytes ++ packet.drop next := by
  intro n
  induction n with
  | zero =>
    intro off next questions h _
    cases h
    rfl
  | succ n ih =>
    intro off next questions h hplain
    obtain ⟨name, e, rest, hname, -, hle, hrest, rfl⟩ := Msg.unpackQuestions_succ h
    rw [questionOffsets, hname] at hplain
    obtain ⟨hfirst, hplain⟩ := List.forall_mem_cons.mp hplain
    rw [Name.drop_of_plainAt hname hfirst, drop_eq_u16Bytes (show e + 2 ≤ packet.length by omega),
      drop_eq_u16Bytes (show e + 2 + 2 ≤ packet.length from hle), ih hrest hplain]
    simp [Question.bytes, RrType.toU16_fromU16]

theorem drop_of_unpackRr {off next : ℕ} {rr : ResourceRecord}
    (h : unpackRr packet off = .ok (rr, next))
    (hplain : PlainAt packet off) : packet.drop off = rr.bytes ++ packet.drop next := by
  obtain ⟨e, rtype, hname, ht, -, -, -, hd⟩ := unpackRr_fields h
  rw [Name.drop_of_plainAt hname hplain, hd]
  simp only [ResourceRecord.bytes, ht, RrType.toU16_fromU16, List.append_assoc]

theorem drop_of_unpackRrSection : ∀ {n off next : ℕ} {records : List ResourceRecord},
    unpackRrSection packet n off = .ok (records, next) →
      (∀ o ∈ rrOffsets packet n off, PlainAt packet o) →
      packet.drop off = records.flatMap ResourceRecord.bytes ++ packet.drop next := by
  intro n
  induction n with
  | zero =>
    intro off next records h _
    cases h
    rfl
  | succ n ih =>
    intro off next records h hplain
    obtain ⟨rr, e, rest, hrr, hrest, rfl⟩ := unpackRrSection_succ h
    rw [rrOffsets, hrr] at hplain
    obtain ⟨hfirst, hplain⟩ := List.forall_mem_cons.mp hplain
    rw [drop_of_unpackRr hrr hfirst, ih hrest hplain, List.flatMap_cons, List.append_assoc]

theorem rrOffsets_add (m : ℕ) : ∀ {n off next : ℕ} {records : List ResourceRecord},
    unpackRrSection packet n off = .ok (records, next) →
      rrOffsets packet (n + m) off = rrOffsets packet n off ++ rrOffsets packet m next := by
  intro n
  induction n with
  | zero =>
    intro off next records h
    cases h
    rw [Nat.zero_add]
    rfl
  | succ n ih =>
    intro off next records h
    obtain ⟨rr, e, rest, hrr, hrest, rfl⟩ := unpackRrSection_succ h
    rw [Nat.succ_add, rrOffsets, rrOffsets, hrr]
    exact congrArg _ (ih hrest)

/-- A packet starts with its header. -/
theorem eq_header_append (h : dnsHeaderSize ≤ packet.length) :
    packet = headerBytes (be16At packet 0) (be16At packet 2) (be16At packet 4) (be16At packet 6)
      (be16At packet 8)
      (be16At packet 10) ++ packet.drop dnsHeaderSize := by
  have hcut : ∀ i, i ≤ 10 → packet.drop i = u16Bytes (be16At packet i) ++ packet.drop (i + 2) :=
    fun i hi => drop_eq_u16Bytes (Nat.le_trans (Nat.add_le_add_right hi 2) h)
  calc packet = packet.drop 0 := rfl
    _ = _ := by
      rw [hcut 0 (by decide), hcut 2 (by decide), hcut 4 (by decide),
        hcut 6 (by decide), hcut 8 (by decide),
        hcut 10 (by decide)]
      simp only [headerBytes, List.append_assoc]

/-- **A packet without compression pointers is what its message is written out as.** -/
theorem Msg.eq_bytes_of_uncompressed {m : Msg} (h : Msg.unpack packet = .ok m)
    (hplain : Uncompressed packet) :
    packet = m.bytes := by
  obtain ⟨hlen, hheader, -, o₁, o₂, o₃, h₁, h₂, h₃, h₄⟩ := unpack_eq_ok.mp h
  have hfits := fits_of_unpack h
  rw [Uncompressed, nameOffsets, h₁] at hplain
  dsimp only at hplain
  rw [Nat.add_assoc, rrOffsets_add _ h₂, rrOffsets_add _ h₃] at hplain
  simp only [List.forall_mem_append] at hplain
  obtain ⟨hq, ha, hn, hr⟩ := hplain
  have hofNat : ∀ {v : UInt16} {k : ℕ}, k = v.toNat → UInt16.ofNat k = v := by
    rintro v _ rfl
    exact UInt16.ofNat_toNat
  rw [Msg.bytes, hheader, MsgHeader.toWireBits_fromWire, hofNat (fits_of_unpackQuestions h₁).1,
    hofNat (fits_of_unpackRrSection h₂).1, hofNat (fits_of_unpackRrSection h₃).1,
      hofNat (fits_of_unpackRrSection h₄).1]
  refine (eq_header_append hlen).trans (congrArg _ ?_)
  rw [drop_of_unpackQuestions h₁ hq, drop_of_unpackRrSection h₂ ha, drop_of_unpackRrSection h₃ hn,
    drop_of_unpackRrSection h₄ hr, List.drop_length, List.append_nil]

end

/-- **What was unpacked is packed again**, and unpacks to the same message. Where its names use no
compression pointer it is the same packet. -/
theorem Msg.pack_unpack {packet : List UInt8} {m : Msg} (h : Msg.unpack packet = .ok m) :
    ∃ out, m.pack = .ok out ∧ Msg.unpack out = .ok m ∧ (Msg.unpack out >>= Msg.pack) = .ok out ∧
      (Uncompressed packet → out = packet) := by
  have hfits := fits_of_unpack h
  refine ⟨m.bytes, pack_eq hfits, unpack_bytes hfits, ?_, fun hplain =>
    (eq_bytes_of_uncompressed h hplain).symm⟩
  rw [unpack_bytes hfits, ok_bind, pack_eq hfits]

/-- A reply whose answer has a pointer to the question for its owner name. -/
def compressedReply : List UInt8 :=
  [0x12, 0x34, 0x81, 0x80, 0, 1, 0, 1, 0, 0, 0, 0, 1, 0x61, 0, 0, 1, 0, 1,
    0xc0, 0x0c, 0, 1, 0, 1, 0, 0, 0, 0x3c, 0, 4, 192, 0, 2, 1]

theorem Msg.pack_unpack_compressedReply :
    ∃ m out, Msg.unpack compressedReply = .ok m ∧ m.pack = .ok out ∧ Msg.unpack out = .ok m ∧
      out ≠ compressedReply := by
  let m : Msg := ⟨MsgHeader.fromWire 0x1234 0x8180, false, [⟨⟨[[0x61]]⟩, .A, 1⟩],
    [⟨⟨[[0x61]]⟩, .A, 1, 60, [192, 0, 2, 1]⟩], [], []⟩
  obtain ⟨out, hpack, hunpack, -, -⟩ := pack_unpack (show Msg.unpack compressedReply =
    .ok m by decide +kernel)
  refine ⟨m, out, by decide +kernel, hpack, hunpack, fun heq => ?_⟩
  have hsame : m.pack = .ok compressedReply := heq ▸ hpack
  exact absurd hsame (by decide +kernel)

end DohProxy.Upstream
