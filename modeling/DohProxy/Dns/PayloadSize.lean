import DohProxy.Dns.Rewriters

/-!
# The payload size of a query

`set_edns_max_payload_size` on a packet that segments to its end: which record it changes or adds,
and that nothing else changes.

## What is proved

`setEdnsMaxPayloadSize_message` — by the number of OPT records: none, and one is appended; one, and
its class is set; more, and there is an error. What comes out of a success is a message again, and
a second call changes nothing.
-/

namespace DohProxy.Dns

open Lib Outcome

/-- `m'` is `m` with other records in its additional section. -/
def Message.WithAdditionals (m m' : Message) (rs : List Record) : Prop :=
  m'.id = m.id ∧ m'.flags = m.flags ∧ m'.question = m.question ∧ m'.answers = m.answers ∧
    m'.authorities = m.authorities ∧ m'.additionals = rs

section

variable {m m' : Message} {rs before after : List Record} {opt : Record} {size : UInt16}

/-- All of the header up to ARCOUNT stays. -/
theorem Message.WithAdditionals.take_ten (h : m.WithAdditionals m' rs) :
    m'.bytes.take 10 = m.bytes.take 10 := by
  have hb : ∀ m : Message, m.bytes.take 10 = u16Bytes m.id ++ (u16Bytes m.flags ++ (u16Bytes 1 ++
      (u16Bytes (UInt16.ofNat m.answers.length) ++
        u16Bytes (UInt16.ofNat m.authorities.length)))) := fun _ => rfl
  obtain ⟨hid, hfl, -, ha, hau, -⟩ := h
  rw [hb, hb, hid, hfl, ha, hau]

theorem Message.be16At_ten (m : Message) : be16At m.bytes 10 =
    UInt16.ofNat m.additionals.length := (readU16_eq_ok.mp m.arcount_bytes).2

/-- The walk goes over the records of the additional section. -/
theorem Message.recordsAt (m : Message) :
    RecordsAt m.bytes m.additionals m.additionalStart m.bytes.length := by
  refine ⟨?_, m.length_bytes_eq⟩
  rw [m.drop_additionalStart, List.drop_length, List.append_nil]

theorem Message.additionalRecords (m : Message) (h : m.bytes.length ≤ 4096) :
    AdditionalRecords m.bytes m.additionals := by
  obtain ⟨hmax, hqd, hat⟩ := additionalOffset_eq_ok_iff.mp (additionalOffset_bytes m h)
  refine ⟨hmax, hqd, _, _, hat, m.recordsAt, ?_⟩
  rw [m.be16At_ten, toNat_ofNat_count m.counts.2.2]

/-- The message with the class of an additional record set. -/
def Message.setClass (m : Message) (size : UInt16) (h : m.additionals = before ++ opt :: after) :
    Message :=
  { m with
    additionals := before ++ { opt with rclass := size } :: after
    counts := by simpa [h] using m.counts }

/-- Where the class of an additional record stands. -/
theorem Message.bytes_class (h : m.additionals = before ++ opt :: after) (size : UInt16) :
    ∃ pre post, pre.length =
        m.additionalStart + (recordsBytes before).length + opt.name.bytes.length + 2 ∧
      m.bytes = pre ++ (u16Bytes opt.rclass ++ post) ∧
      (m.setClass size h).bytes = pre ++ (u16Bytes size ++ post) := by
  refine ⟨m.header ++ (m.question.bytes ++ (recordsBytes m.answers ++
    (recordsBytes m.authorities ++ (recordsBytes before ++ (opt.name.bytes ++
      u16Bytes opt.rtype))))),
    u32Bytes opt.ttl ++ (u16Bytes (UInt16.ofNat opt.rdata.length) ++
      (opt.rdata ++ recordsBytes after)), ?_, ?_, ?_⟩
  · simp only [Message.additionalStart, List.length_append, m.length_header, length_u16Bytes]
    omega
  · simp only [Message.bytes, h, recordsBytes_append, recordsBytes_cons, Record.bytes,
      Record.fields, List.append_assoc]
  · simp only [Message.bytes, Message.header, Message.setClass, h, recordsBytes_append,
      recordsBytes_cons, Record.bytes, Record.fields, List.length_append, List.length_cons,
      List.append_assoc]

theorem Message.setClass_bytes (h : m.additionals = before ++ opt :: after) :
    (m.setClass size h).bytes = setU16 m.bytes
      (m.additionalStart + (recordsBytes before).length + opt.name.bytes.length + 2) size := by
  obtain ⟨pre, post, hlen, hb, hb'⟩ := m.bytes_class h size
  rw [hb', hb, setU16_append hlen.symm]

theorem Message.length_setClass (h : m.additionals = before ++ opt :: after) :
    (m.setClass size h).bytes.length = m.bytes.length := by
  rw [m.setClass_bytes, length_setU16]

/-- **With one OPT record** its class is set. -/
theorem setEdnsMaxPayloadSize_setClass (hlen : m.bytes.length ≤ 4096)
    (h : m.additionals = before ++ opt :: after) (hopt : opt.rtype = dnsTypeOpt)
    (hno : ∀ r ∈ before ++ after, r.rtype ≠ dnsTypeOpt) :
    setEdnsMaxPayloadSize size m.bytes = (.ok (), (m.setClass size h).bytes) := by
  have hrs := m.additionalRecords hlen
  have hone : optCount m.additionals = 1 := by rw [h]; exact optCount_split hopt hno
  obtain ⟨hmax, hqd, hat⟩ := additionalOffset_eq_ok_iff.mp (additionalOffset_bytes m hlen)
  have hfirst : FirstOptAt m.bytes (be16At m.bytes 10).toNat m.additionalStart
      (m.additionalStart + (recordsBytes before).length + opt.name.bytes.length) := by
    rw [m.be16At_ten, toNat_ofNat_count m.counts.2.2, h]
    exact firstOptAt_of_split (h ▸ m.recordsAt) hopt hno
  rw [setEdnsMaxPayloadSize_of_one hrs hone ⟨hmax, hqd, _, hat, hfirst⟩, m.setClass_bytes]

/-- **Without one** an OPT record is appended. -/
theorem setEdnsMaxPayloadSize_push (hlen : m.bytes.length ≤ 4085)
    (hno : ∀ r ∈ m.additionals, r.rtype ≠ dnsTypeOpt) (hc : m.additionals.length < 65535) :
    setEdnsMaxPayloadSize size m.bytes = (.ok (), (m.push (optRecord size) hc).bytes) := by
  rw [setEdnsMaxPayloadSize_of_none (m.additionalRecords (by omega))
    (optCount_eq_zero_iff.mpr hno), if_pos hlen, m.push_bytes, m.be16At_ten]

/-- A class that is set already stays. -/
theorem setEdnsMaxPayloadSize_again (hlen : m.bytes.length ≤ 4096)
    (h : m.additionals = before ++ opt :: after) (hopt : opt.rtype = dnsTypeOpt)
    (hno : ∀ r ∈ before ++ after, r.rtype ≠ dnsTypeOpt) (hsize : opt.rclass = size) :
    setEdnsMaxPayloadSize size m.bytes = (.ok (), m.bytes) := by
  rw [setEdnsMaxPayloadSize_setClass hlen h hopt hno]
  obtain ⟨pre, post, -, hb, hb'⟩ := m.bytes_class h size
  rw [hb', hb, hsize]

/-- What a success leaves: a message with the given additional records, the header as it was but
for their number, and nothing left to do. -/
def PayloadSizeSet (size : UInt16) (packet : Packet) (m : Message) (rs : List Record) : Prop :=
  ∃ packet' m', setEdnsMaxPayloadSize size packet = (.ok (), packet') ∧
    segment packet' = .ok m' ∧ m.WithAdditionals m' rs ∧ packet'.take 10 = packet.take 10 ∧
    arcount packet' = .ok (UInt16.ofNat rs.length) ∧
    setEdnsMaxPayloadSize size packet' = (.ok (), packet')

/-- **The payload size of a query**: without an OPT record it gets one, one OPT record gets the
size, and more of them are an error. -/
theorem setEdnsMaxPayloadSize_message {packet : Packet} (hm : segment packet = .ok m)
    (hlen : packet.length ≤ 4085) (size : UInt16) :
    ((∀ r ∈ m.additionals, r.rtype ≠ dnsTypeOpt) →
      PayloadSizeSet size packet m (m.additionals ++ [optRecord size])) ∧
    (∀ before opt after, m.additionals = before ++ opt :: after → opt.rtype = dnsTypeOpt →
      (∀ r ∈ before ++ after, r.rtype ≠ dnsTypeOpt) →
      PayloadSizeSet size packet m (before ++ { opt with rclass := size } :: after)) ∧
    (2 ≤ optCount m.additionals → ∃ msg, (setEdnsMaxPayloadSize size packet).1 = .err msg) := by
  rw [segment_eq_ok_iff] at hm
  subst hm
  have hrs := m.additionalRecords (by omega)
  refine ⟨fun hno => ?_, fun before opt after h hopt hno => ?_, fun htwo => ?_⟩
  · have hcount := hrs.count_lt
    rw [m.be16At_ten, UInt16.lt_iff_toNat_lt, toNat_ofNat_count m.counts.2.2] at hcount
    have hwith : m.WithAdditionals (m.push (optRecord size) hcount)
        (m.additionals ++ [optRecord size]) := ⟨rfl, rfl, rfl, rfl, rfl, rfl⟩
    refine ⟨_, _, setEdnsMaxPayloadSize_push hlen hno hcount, segment_complete _, hwith,
      hwith.take_ten, Message.arcount_bytes _, ?_⟩
    have hm' : (m.push (optRecord size) hcount).additionals =
      m.additionals ++ optRecord size :: [] := rfl
    refine setEdnsMaxPayloadSize_again ?_ hm' rfl ?_ rfl
    · rw [m.length_push_opt]
      omega
    · simpa using hno
  · have hwith : m.WithAdditionals (m.setClass size h)
        (before ++ { opt with rclass := size } :: after) := ⟨rfl, rfl, rfl, rfl, rfl, rfl⟩
    refine ⟨_, _, setEdnsMaxPayloadSize_setClass (by omega) h hopt hno, segment_complete _, hwith,
      hwith.take_ten, Message.arcount_bytes _, ?_⟩
    have hm' : (m.setClass size h).additionals =
      before ++ { opt with rclass := size } :: after := rfl
    refine setEdnsMaxPayloadSize_again ?_ hm' hopt hno rfl
    rw [m.length_setClass]
    omega
  · have hnot : ¬ ∃ rs, AdditionalRecords m.bytes rs ∧ optCount rs ≤ 1 := by
      rintro ⟨rs, hrs', hle⟩
      rw [← hrs.unique hrs'] at hle
      omega
    obtain ⟨msg, packet', h, -⟩ := setEdnsMaxPayloadSize_of_not size hnot
    exact ⟨msg, by rw [h]⟩

/-- The query for the root gets an OPT record. -/
theorem setEdnsMaxPayloadSize_message_root :
    PayloadSizeSet 4096 (rootQuery [] (by decide)).bytes (rootQuery [] (by decide))
      [optRecord 4096] :=
  (setEdnsMaxPayloadSize_message (segment_complete _) (by decide) 4096).1 (by decide)

end

end DohProxy.Dns
