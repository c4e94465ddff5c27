import DohProxy.Dns.Segment

/-!
# Rewriting the OPT record

The two rewriters of `dns.rs`: `setEdnsMaxPayloadSize` sets the payload size a query
announces, adding an OPT record when there is none, and `addEdnsPadding` pads a
response to the next of a few lengths. Both walk the packet to its additional section,
look for the OPT record there and change the packet in place.

## The model

Both begin with the same checks and the same walk, `additionalOffset`. They are
computations on the packet (`Proc`): what they wrote stays when they fail later.

## What is proved

`additionalOffset_bytes` — on a packet that segments to its end the walk comes to the
additional section; `addEdnsSection_eq_ok` — there, adding an OPT record to the packet
adds one to the additional section.
-/

namespace DohProxy.Dns

open Lib Outcome

/-- The padding option's code. -/
def dnsPtypePadding : UInt16 := 12

/-- The number of additional records, increased. -/
def arcountInc : Proc Packet Error Unit := do
  let arcount ← Proc.reads arcount
  Proc.lift (ensure (arcount < 0xffff) "Too many additional records")
  Proc.modifies fun packet => writeU16 packet 10 (arcount + 1)

/-- An OPT record at the end of the packet, which announces a payload size. -/
def addEdnsSection (maxPayloadSize : UInt16) : Proc Packet Error Unit := do
  let optRr : List UInt8 := [0, hi dnsTypeOpt, lo dnsTypeOpt, hi maxPayloadSize, lo maxPayloadSize,
    0, 0, 0, 0, 0, 0]
  let room ← Proc.reads fun packet => usub dnsMaxPacketSize packet.length
  Proc.lift (ensure (room ≥ optRr.length) "Packet would be too large to add a new record")
  arcountInc
  Proc.modifies fun packet => .ok (packet ++ optRr)

/-- What `set_edns_max_payload_size` and `add_edns_padding` both begin with: the checks of
the header, and the walk over question, answers and authorities to where the additional
section starts. -/
def additionalOffset (packet : Packet) : Outcome Error ℕ := do
  ensure (packet.length > dnsOffsetQuestion) "Short packet"
  ensure (packet.length ≤ dnsMaxPacketSize) "Large packet"
  ensure ((← qdcount packet) = 1) "No question"
  let offset ← skipName packet dnsOffsetQuestion
  assert (offset > dnsOffsetQuestion)
  ensure ((← usub packet.length offset) ≥ 4) "Short packet"
  let ancount ← ancount packet
  let nscount ← nscount packet
  let (offset, _) ← traverseRrs packet (fun _ _ => .ok ()) (ancount.toNat + nscount.toNat)
    (offset + 4) ()
  return offset

/-- The callback of `set_edns_max_payload_size`: set the class of an OPT record. -/
def setPayload (maxPayloadSize : UInt16) (offset : ℕ) (ednsPayloadSet : Bool) :
    Proc Packet Error Bool := do
  let qtype ← Proc.reads fun packet => readU16 packet offset
  if qtype = dnsTypeOpt then
    Proc.lift (ensure (ednsPayloadSet = false) "Duplicate OPT RR found")
    Proc.modifies fun packet => writeU16 packet (offset + 2) maxPayloadSize
    return true
  else return ednsPayloadSet

/-- Set the payload size the packet's OPT record announces, or add an OPT record. -/
def setEdnsMaxPayloadSize (maxPayloadSize : UInt16) : Proc Packet Error Unit := do
  let packetLen ← Proc.reads fun packet => .ok packet.length
  let offset ← Proc.reads additionalOffset
  let arcount ← Proc.reads arcount
  let (_, ednsPayloadSet) ← traverseRrsMut packetLen
    (setPayload maxPayloadSize) arcount.toNat offset false
  if ednsPayloadSet then return () else addEdnsSection maxPayloadSize

/-- The lengths responses are padded to. -/
def paddingBoundaries : List ℕ :=
  [64, 128, 192, 256, 320, 384, 512, 704, 768, 896, 960, 1024, 1088, 1152, 2688, 4080]

/-- The first boundary that is long enough. -/
def paddedLen (unpaddedLen : ℕ) : ℕ :=
  (paddingBoundaries.find? fun boundary => unpaddedLen ≤ boundary).getD dnsMaxPacketSize

/-- The padding option. -/
def ednsPaddingPrr (paddingLen : ℕ) : List UInt8 :=
  u16Bytes dnsPtypePadding ++ (u16Bytes (UInt16.ofNat paddingLen) ++ List.replicate paddingLen 88)

/-- The callback of `add_edns_padding`: remember where the OPT record's fields start. -/
def findOpt (packet : Packet) (offset : ℕ) (ednsOffset : Option ℕ) : Outcome Error (Option ℕ) := do
  let qtype ← readU16 packet offset
  if qtype = dnsTypeOpt then
    ensure (ednsOffset = none) "Duplicate OPT RR found"
    return some offset
  else return ednsOffset

/-- Lengthen the OPT record whose fields start at `ednsOffset` by a padding option, which
goes to the end of the packet. -/
def padAt (packetLen ednsOffset : ℕ) : Proc Packet Error Unit := do
  let paddingLen ← Proc.lift (usub (paddedLen packetLen) packetLen)
  let prr := ednsPaddingPrr paddingLen
  let ednsRdlenOffset := ednsOffset + 8
  let room ← Proc.lift (usub packetLen ednsRdlenOffset)
  Proc.lift (ensure (room ≥ 2) "Short packet")
  let ednsRdlen ← Proc.reads fun packet => readU16 packet ednsRdlenOffset
  Proc.lift (ensure (ednsOffset + ednsRdlen.toNat ≤ packetLen) "Out of range EDNS size")
  let room ← Proc.lift (usub 0xffff ednsRdlen.toNat)
  Proc.lift (ensure (room ≥ prr.length) "EDNS section too large for padding")
  let room ← Proc.lift (usub dnsMaxPacketSize packetLen)
  Proc.lift (ensure (room ≥ prr.length) "Large packet")
  let rdlen ← Proc.lift (uadd16 ednsRdlen (UInt16.ofNat prr.length))
  Proc.modifies fun packet => writeU16 packet ednsRdlenOffset rdlen
  Proc.modifies fun packet => .ok (packet ++ prr)

/-- Pad the packet by an option of its OPT record, which is added when there is none. -/
def addEdnsPadding : Proc Packet Error Unit := do
  let packetLen ← Proc.reads fun packet => .ok packet.length
  let offset ← Proc.reads additionalOffset
  let arcount ← Proc.reads arcount
  let (_, ednsOffset) ← traverseRrsMut packetLen (fun offset ednsOffset => Proc.reads fun packet =>
    findOpt packet offset ednsOffset) arcount.toNat offset none
  match ednsOffset with
  | some ednsOffset => padAt packetLen ednsOffset
  | none => do
    let ednsOffset := packetLen + 1
    addEdnsSection 4096
    let packetLen ← Proc.reads fun packet => .ok packet.length
    padAt packetLen ednsOffset

/-! ### On a packet that segments to its end -/

/-- Where the additional section starts. -/
def Message.additionalStart (m : Message) : ℕ :=
  12 + (m.question.bytes.length + ((recordsBytes m.answers).length +
    (recordsBytes m.authorities).length))

theorem Message.drop_additionalStart (m : Message) :
    m.bytes.drop m.additionalStart = recordsBytes m.additionals := by
  have h := drop_of_drop _ (drop_of_drop _ (drop_of_drop _ m.drop_bytes))
  simpa only [Message.additionalStart, Nat.add_assoc] using h

theorem Message.length_bytes_eq (m : Message) :
    m.bytes.length = m.additionalStart + (recordsBytes m.additionals).length := by
  simp only [Message.bytes, Message.additionalStart, List.length_append,
    m.length_header, Nat.add_assoc]

/-- A callback that does nothing is called for nothing. -/
theorem foldOffsets_unit (rs : List Record) : ∀ off, foldOffsets (fun _ _ => .ok ()) rs off
    () = .ok () := by
  induction rs with
  | nil => intro off; rfl
  | cons r rs ih => intro off; exact ih _

/-- **The walk comes to the additional section.** -/
theorem additionalOffset_bytes (m : Message) (h : m.bytes.length ≤ 4096) :
    additionalOffset m.bytes = .ok m.additionalStart := by
  have hq := m.drop_bytes
  rw [Question.bytes, List.append_assoc] at hq
  have hlen := length_of_drop hq (by simp [u16Bytes])
  have hpos := m.question.name.valid.length_pos
  have hn := skipName_complete m.question.name.valid hq (by simp [u16Bytes])
  have hr := drop_of_drop _ (drop_of_drop _ hq)
  rw [← List.append_assoc, ← recordsBytes_append] at hr
  simp only [List.length_append, length_u16Bytes, Nat.reduceAdd] at hlen hr
  have ht := traverseRrs_records (fun _ _ => .ok ()) (s := ()) hr
  rw [foldOffsets_unit, List.length_append] at ht
  simp only [additionalOffset, dnsOffsetQuestion, dnsHeaderSize, dnsMaxPacketSize,
    ensure_pos (show m.bytes.length > 12 by omega), ensure_pos h, ok_bind,
      m.qdcount_bytes, ensure_true, hn,
    assert_pos (show 12 + m.question.name.bytes.length > 12 by omega),
    usub_pos (show 12 + m.question.name.bytes.length ≤ m.bytes.length by omega),
    ensure_pos (show m.bytes.length - (12 + m.question.name.bytes.length) ≥ 4 by omega), m.ancount_bytes,
    m.nscount_bytes, toNat_ofNat_count m.counts.1, toNat_ofNat_count m.counts.2.1, ht, pure_eq_ok]
  simp only [Message.additionalStart, Question.bytes, recordsBytes_append,
    List.length_append, length_u16Bytes,
    Nat.add_assoc, Nat.reduceAdd]

/-- The record `add_edns_section` adds. -/
def optRecord (maxPayloadSize : UInt16) : Record :=
  ⟨⟨[0], 1, by decide, .root⟩, dnsTypeOpt, maxPayloadSize, 0, [], by decide⟩

theorem optRecord_bytes (maxPayloadSize : UInt16) : (optRecord maxPayloadSize).bytes =
    [0, hi dnsTypeOpt, lo dnsTypeOpt, hi maxPayloadSize, lo maxPayloadSize, 0, 0, 0, 0, 0, 0] := by
  simp [optRecord, Record.bytes, Record.fields, u16Bytes, u32Bytes, hi16, lo16]
  decide

/-- **Adding an OPT record** fails without a trace, or counts the record and appends it. -/
theorem addEdnsSection_apply (size : UInt16) {packet : Packet} (hlen : 12 ≤ packet.length)
    (hmax : packet.length ≤ 4096) :
    addEdnsSection size packet =
      if packet.length ≤ 4085 then
        if be16At packet 10 < 0xffff then
          (.ok (), setU16 packet 10 (be16At packet 10 + 1) ++ (optRecord size).bytes)
        else (.err "Too many additional records", packet)
      else (.err "Packet would be too large to add a new record", packet) := by
  have hread : (arcount packet : Outcome Error UInt16) = .ok (be16At packet 10) := readU16_pos hlen
  by_cases hroom : packet.length ≤ 4085
  · have hle : 4096 - packet.length ≥ 11 := by omega
    by_cases hcount : be16At packet 10 < 0xffff
    · rw [if_pos hroom, if_pos hcount, optRecord_bytes]
      simp only [addEdnsSection, arcountInc, Proc.bind_apply, Proc.reads_apply, Proc.lift_apply,
        Proc.modifies_apply, dnsMaxPacketSize, usub_pos hmax, Proc.next_ok, List.length_cons,
        List.length_nil, Nat.reduceAdd, ensure_pos hle, hread, ensure_pos hcount,
        writeU16_pos hlen]
      rfl
    · rw [if_pos hroom, if_neg hcount]
      simp only [addEdnsSection, arcountInc, Proc.bind_apply, Proc.reads_apply, Proc.lift_apply,
        dnsMaxPacketSize, usub_pos hmax, Proc.next_ok, List.length_cons, List.length_nil,
        Nat.reduceAdd, ensure_pos hle, hread, ensure_neg hcount, Proc.next_err]
  · have hle : ¬ 4096 - packet.length ≥ 11 := by omega
    rw [if_neg hroom]
    simp only [addEdnsSection, Proc.bind_apply, Proc.reads_apply, Proc.lift_apply,
      dnsMaxPacketSize, usub_pos hmax, Proc.next_ok, List.length_cons, List.length_nil,
      Nat.reduceAdd, ensure_neg hle, Proc.next_err]

/-- A query for the root's A records, with the given additional section. -/
def rootQuery (additionals : List Record) (h : additionals.length < 65536) : Message where
  id := 0
  flags := 0x0100
  question := { name := (optRecord 4096).name, qtype := 1, qclass := 1 }
  answers := []
  authorities := []
  additionals := additionals
  counts := ⟨by simp, by simp, h⟩

/-- The message with a record more in its additional section. -/
def Message.push (m : Message) (r : Record) (h : m.additionals.length < 65535) : Message :=
  { m with
    additionals := m.additionals ++ [r]
    counts := ⟨m.counts.1, m.counts.2.1, by rw [List.length_append, List.length_singleton]; omega⟩ }

theorem Message.push_bytes (m : Message) (r : Record) (h : m.additionals.length < 65535) :
    (m.push r h).bytes = setU16 m.bytes 10 (UInt16.ofNat m.additionals.length + 1) ++ r.bytes := by
  have hc : UInt16.ofNat (m.additionals.length + 1) = UInt16.ofNat m.additionals.length + 1 := by
    rw [UInt16.ofNat_add]; rfl
  have hb : m.bytes = (u16Bytes m.id ++ (u16Bytes m.flags ++
    (u16Bytes 1 ++ (u16Bytes (UInt16.ofNat m.answers.length) ++
      u16Bytes (UInt16.ofNat m.authorities.length))))) ++
        (u16Bytes (UInt16.ofNat m.additionals.length) ++
        m.bytes.drop 12) := rfl
  rw [hb, setU16_append (show 10 = (u16Bytes m.id ++ _).length from rfl), ← hc, m.drop_bytes]
  simp only [Message.push, Message.bytes, Message.header, recordsBytes_append,
    recordsBytes_cons, recordsBytes_nil,
    List.append_nil, List.length_append, List.length_singleton, List.append_assoc]

theorem Message.length_push_opt (m : Message) (size : UInt16) (h : m.additionals.length < 65535) :
    (m.push (optRecord size) h).bytes.length = m.bytes.length + 11 := by
  rw [m.push_bytes, List.length_append, length_setU16]
  rfl

/-- A successful call has added one. -/
theorem addEdnsSection_eq_ok {m : Message} {size : UInt16} {packet' : Packet}
    (hmax : m.bytes.length ≤ 4096) (h : addEdnsSection size m.bytes = (.ok (), packet')) :
    ∃ hc, packet' = (m.push (optRecord size) hc).bytes ∧ m.bytes.length ≤ 4085 := by
  obtain ⟨-, hcount⟩ := readU16_eq_ok.mp m.arcount_bytes
  have hm := m.counts.2.2
  rw [addEdnsSection_apply size m.length_bytes hmax, hcount] at h
  split at h
  · next hlen =>
    split at h
    · next hc =>
      rw [UInt16.lt_iff_toNat_lt, toNat_ofNat_count hm] at hc
      exact ⟨hc, by rw [m.push_bytes, (Prod.mk.inj h).2], hlen⟩
    · simp at h
  · simp at h

end DohProxy.Dns
