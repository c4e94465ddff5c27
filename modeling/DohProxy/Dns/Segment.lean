import DohProxy.Dns.Packet

/-!
# Segmentation: what a packet is made of

The rewriters of `dns.rs` and `edns_ecs.rs` see a packet as a header, one question
and the records of three sections, cut where `skipName` and `traverseRrs` cut them:
names are raw bytes, with their compression pointers not followed.

## The model

`Message` is that view: its names are names `skipName` accepts, its RDATA fits a
16-bit length and its sections fit 16-bit counts, so a `Message` is well formed by
construction, and `Message.bytes` writes it out. `segment` cuts a packet by running
the walkers over it to the packet's very end.

## What is proved

* `segment_eq_ok_iff` — **a packet segments exactly to its end as `m` if and only if
  it is `m` written out**. Questions about what a rewriter does to the records become
  questions about `Message.bytes`.
* `traverseRrs_records` and `traverseRrs_sound` — `traverseRrs` over a suffix that
  starts with records calls back once for each, in order; and where it succeeds, the
  suffix starts with records.
-/

namespace DohProxy.Dns

open Lib Outcome

/-- An owner name as it stands in a packet. -/
@[ext]
structure OwnerName where
  /-- Its bytes. -/
  bytes : List UInt8
  /-- `skip_name` accepts it. -/
  valid : IsName bytes
  deriving DecidableEq

/-- A question. -/
@[ext]
structure Question where
  /-- The name asked about. -/
  name : OwnerName
  /-- The type asked for. -/
  qtype : UInt16
  /-- The class. -/
  qclass : UInt16
  deriving DecidableEq

/-- A resource record. -/
@[ext]
structure Record where
  /-- The owner name. -/
  name : OwnerName
  /-- The type. -/
  rtype : UInt16
  /-- The class. -/
  rclass : UInt16
  /-- The time to live. -/
  ttl : UInt32
  /-- The data. -/
  rdata : List UInt8
  /-- The data's length fits in RDLENGTH. -/
  fits : rdata.length < 65536
  deriving DecidableEq

/-- A packet cut into its parts. -/
@[ext]
structure Message where
  /-- The transaction id. -/
  id : UInt16
  /-- The flags. -/
  flags : UInt16
  /-- The question. -/
  question : Question
  /-- The answer section. -/
  answers : List Record
  /-- The authority section. -/
  authorities : List Record
  /-- The additional section. -/
  additionals : List Record
  /-- The sections' sizes fit in the header's counts. -/
  counts : answers.length < 65536 ∧ authorities.length < 65536 ∧ additionals.length < 65536
  deriving DecidableEq

/-! ### Writing out -/

/-- The question as it stands in a packet. -/
def Question.bytes (q : Question) : List UInt8 :=
  q.name.bytes ++ (u16Bytes q.qtype ++ u16Bytes q.qclass)

/-- What stands in a packet after a record's name. -/
def Record.fields (r : Record) : List UInt8 :=
  u16Bytes r.rtype ++ (u16Bytes r.rclass ++ (u32Bytes r.ttl ++
    (u16Bytes (UInt16.ofNat r.rdata.length) ++ r.rdata)))

/-- A record as it stands in a packet. -/
def Record.bytes (r : Record) : List UInt8 := r.name.bytes ++ r.fields

/-- What stands in a packet before a record's RDLENGTH. -/
def Record.head (r : Record) : List UInt8 :=
  r.name.bytes ++ (u16Bytes r.rtype ++ (u16Bytes r.rclass ++ u32Bytes r.ttl))

/-- Records one after the other. -/
def recordsBytes (rs : List Record) : List UInt8 := rs.flatMap Record.bytes

/-- The header. -/
def Message.header (m : Message) : List UInt8 :=
  u16Bytes m.id ++ (u16Bytes m.flags ++ (u16Bytes 1 ++ (u16Bytes (UInt16.ofNat m.answers.length) ++
    (u16Bytes (UInt16.ofNat m.authorities.length) ++
      u16Bytes (UInt16.ofNat m.additionals.length)))))

/-- The whole packet. -/
def Message.bytes (m : Message) : Packet :=
  m.header ++ (m.question.bytes ++ (recordsBytes m.answers ++ (recordsBytes m.authorities ++
    recordsBytes m.additionals)))

@[simp] theorem recordsBytes_nil : recordsBytes [] = [] := rfl

@[simp] theorem recordsBytes_cons (r : Record) (rs : List Record) :
    recordsBytes (r :: rs) = r.bytes ++ recordsBytes rs := List.flatMap_cons

@[simp] theorem recordsBytes_append (rs₁ rs₂ : List Record) :
    recordsBytes (rs₁ ++ rs₂) = recordsBytes rs₁ ++ recordsBytes rs₂ := List.flatMap_append

theorem Record.length_fields (r : Record) : r.fields.length = 10 + r.rdata.length := by
  simp [Record.fields]; omega

theorem Record.length_bytes (r : Record) : r.bytes.length = r.name.bytes.length +
    (10 + r.rdata.length) := by
  rw [Record.bytes, List.length_append, r.length_fields]

theorem length_le_recordsBytes (rs : List Record) : rs.length ≤ (recordsBytes rs).length := by
  induction rs with
  | nil => exact le_rfl
  | cons r rs ih =>
    rw [List.length_cons, recordsBytes_cons, List.length_append, r.length_bytes]
    omega

theorem Record.bytes_eq_head (r : Record) :
    r.bytes = r.head ++ (u16Bytes (UInt16.ofNat r.rdata.length) ++ r.rdata) := by
  simp only [Record.bytes, Record.fields, Record.head, List.append_assoc]

theorem Record.length_head (r : Record) : r.head.length = r.name.bytes.length + 8 := by
  simp [Record.head]

theorem Record.fields_ne_nil (r : Record) : r.fields ≠ [] := by
  simp [Record.fields, u16Bytes]

theorem Record.toNat_rdlength (r : Record) :
    (UInt16.ofNat r.rdata.length).toNat = r.rdata.length := by
  have := r.fits
  rw [UInt16.toNat_ofNat']; omega

@[simp] theorem Message.length_header (m : Message) : m.header.length = 12 := rfl

/-! ### Cutting -/

theorem isName_of_skipName {packet : Packet} {off next : ℕ} (h : skipName packet off = .ok next) :
    IsName ((packet.drop off).take (next - off)) := by
  obtain ⟨nm, hnm, hd, rfl, -⟩ := skipName_sound h
  rwa [hd, Nat.add_sub_cancel_left, List.take_left]

/-- The name at `offset`, and the offset after it. -/
def cutName (packet : Packet) (offset : ℕ) : Outcome Error (OwnerName × ℕ) :=
  match h : skipName packet offset with
  | .ok next => .ok (⟨(packet.drop offset).take (next - offset), isName_of_skipName h⟩, next)
  | .err e => .err e
  | .panic => .panic
  | .timeout => .timeout

/-- The record whose name `nm` ends at `e`. -/
def Record.behind (packet : Packet) (nm : OwnerName) (e : ℕ) : Record :=
  ⟨nm, be16At packet e, be16At packet (e + 2), be32At packet (e + 4),
    (packet.drop (e + 10)).take (be16At packet (e + 8)).toNat,
    (List.length_take_le ..).trans_lt (be16At packet (e + 8)).toNat_lt⟩

/-- The record at `offset`, and the offset after it. -/
def cutRecord (packet : Packet) (offset : ℕ) : Outcome Error (Record × ℕ) := do
  let (name, offset) ← cutName packet offset
  ensure ((← usub packet.length offset) ≥ 10) "Short packet"
  let rdlen ← readU16 packet (offset + 8)
  ensure ((← usub packet.length (offset + 10)) ≥ rdlen.toNat)
    "Record length would exceed packet length"
  return (Record.behind packet name offset, offset + 10 + rdlen.toNat)

/-- The records of a section, and the offset after them. -/
def cutRecords (packet : Packet) : ℕ → ℕ → Outcome Error (List Record × ℕ)
  | 0, offset => return ([], offset)
  | count + 1, offset => do
    let (r, offset) ← cutRecord packet offset
    let (rs, offset) ← cutRecords packet count offset
    return (r :: rs, offset)

/-- **Segmentation**: the packet cut into header, one question and the records of its
three sections, up to its very end. (The last test always succeeds, the sections being as
long as the header says.) -/
def segment (packet : Packet) : Outcome Error Message := do
  ensure (packet.length ≥ dnsHeaderSize) "Short packet"
  let id ← readU16 packet 0
  let flags ← readU16 packet 2
  ensure ((← qdcount packet) = 1) "No question"
  let (name, offset) ← cutName packet dnsOffsetQuestion
  ensure ((← usub packet.length offset) ≥ 4) "Short packet"
  let qtype ← readU16 packet offset
  let qclass ← readU16 packet (offset + 2)
  let (answers, offset) ← cutRecords packet (← ancount packet).toNat (offset + 4)
  let (authorities, offset) ← cutRecords packet (← nscount packet).toNat offset
  let (additionals, offset) ← cutRecords packet (← arcount packet).toNat offset
  ensure (packet.length = offset) "Garbage after packet"
  if h : answers.length < 65536 ∧ authorities.length < 65536 ∧ additionals.length < 65536 then
    return ⟨id, flags, ⟨name, qtype, qclass⟩, answers, authorities, additionals, h⟩
  else .err "Too many records"

/-! ### Cutting and writing out are inverse -/

variable {packet : Packet} {off next : ℕ} {rest : List UInt8}

theorem cutName_sound {nm : OwnerName} (h : cutName packet off = .ok (nm, next)) :
    packet.drop off = nm.bytes ++ packet.drop next ∧ next = off + nm.bytes.length ∧
      next ≤ packet.length := by
  unfold cutName at h
  split at h
  · next e he =>
    simp only [Outcome.ok.injEq, Prod.mk.injEq] at h
    obtain ⟨rfl, rfl⟩ := h
    obtain ⟨nm, -, hd, rfl, hle⟩ := skipName_sound he
    simp only [Nat.add_sub_cancel_left]
    rw [hd, List.take_left]
    exact ⟨rfl, rfl, hle⟩
  all_goals simp at h

theorem cutName_complete {nm : OwnerName} (hd : packet.drop off = nm.bytes ++ rest)
    (hr : rest ≠ []) :
    cutName packet off = .ok (nm, off + nm.bytes.length) := by
  have hs := skipName_complete nm.valid hd hr
  unfold cutName
  split
  · next e he =>
    rw [hs, Outcome.ok.injEq] at he
    subst he
    simp [hd]
  all_goals next he => rw [hs] at he; simp at he

/-- What stands after a name, field by field. -/
theorem drop_eq_fields {e : ℕ} (h : e + 10 ≤ packet.length) :
    packet.drop e = u16Bytes (be16At packet e) ++ (u16Bytes (be16At packet (e + 2)) ++
      (u32Bytes (be32At packet (e + 4)) ++ (u16Bytes (be16At packet (e + 8)) ++
        ((packet.drop (e + 10)).take (be16At packet (e + 8)).toNat ++
          packet.drop (e + 10 + (be16At packet (e + 8)).toNat))))) := by
  rw [← drop_eq_take_append, ← drop_eq_u16Bytes (show e + 8 + 2 ≤ packet.length by omega),
    ← drop_eq_u32Bytes (show e + 4 + 4 ≤ packet.length by omega),
    ← drop_eq_u16Bytes (show e + 2 + 2 ≤ packet.length by omega), ← drop_eq_u16Bytes (by omega)]

theorem Record.fields_behind (nm : OwnerName) {e : ℕ}
    (h : e + 10 + (be16At packet (e + 8)).toNat ≤ packet.length) :
    packet.drop e = (Record.behind packet nm e).fields ++
      packet.drop (e + 10 + (be16At packet (e + 8)).toNat) ∧
      (Record.behind packet nm e).fields.length = 10 + (be16At packet (e + 8)).toNat := by
  have hlen : ((packet.drop (e + 10)).take (be16At packet (e + 8)).toNat).length =
    (be16At packet (e + 8)).toNat := by
    rw [List.length_take, List.length_drop]; omega
  refine ⟨?_, by rw [Record.length_fields, Record.behind, hlen]⟩
  conv_lhs => rw [drop_eq_fields (show e + 10 ≤ packet.length by omega)]
  simp only [Record.fields, Record.behind, hlen, UInt16.ofNat_toNat, List.append_assoc]

theorem cutRecord_sound {r : Record} (h : cutRecord packet off = .ok (r, next)) :
    packet.drop off = r.bytes ++ packet.drop next ∧ next = off + r.bytes.length ∧
      next ≤ packet.length := by
  simp only [cutRecord, bind_eq_ok, usub_eq_ok, ensure_eq_ok, readU16_eq_ok, pure_eq_ok,
    Prod.exists] at h
  obtain ⟨nm, e, hn, _, ⟨hle, rfl⟩, _, hten, rdlen, ⟨-, rfl⟩, _, ⟨hle', rfl⟩, _, hrd, h⟩ := h
  obtain ⟨hd, rfl, -⟩ := cutName_sound hn
  simp only [Outcome.ok.injEq, Prod.mk.injEq] at h
  obtain ⟨rfl, rfl⟩ := h
  have hle : off + nm.bytes.length + 10 + (be16At packet (off + nm.bytes.length + 8)).toNat ≤
    packet.length := by
    omega
  obtain ⟨hf, hlen⟩ := Record.fields_behind nm hle
  rw [Record.bytes, List.length_append, hlen, Record.behind]
  refine ⟨?_, by simp only; omega, by omega⟩
  rw [hd, hf, ← List.append_assoc]
  rfl

/-- A record is what stands after its name. -/
theorem Record.behind_eq {r : Record} {e : ℕ} (hd : packet.drop e = r.fields ++ rest) :
    Record.behind packet r.name e = r ∧ (be16At packet (e + 8)).toNat = r.rdata.length := by
  have hlen := length_of_drop hd (by simp [r.fields_ne_nil])
  rw [List.length_append, r.length_fields] at hlen
  simp only [Record.fields, List.append_assoc] at hd
  have hd₂ := drop_of_drop _ hd
  have hd₄ := drop_of_drop _ hd₂
  have hd₈ := drop_of_drop _ hd₄
  have hd₁₀ := drop_of_drop _ hd₈
  simp only [length_u16Bytes, length_u32Bytes, Nat.add_assoc, Nat.reduceAdd] at hd₂ hd₄ hd₈ hd₁₀
  have h₀ : be16At packet e = r.rtype := (readU16_eq_ok (ε := Error).mp (readU16_of_drop hd)).2
  have h₂ : be16At packet (e + 2) = r.rclass :=
    (readU16_eq_ok (ε := Error).mp (readU16_of_drop hd₂)).2
  have h₈ := (readU16_eq_ok (ε := Error).mp (readU16_of_drop hd₈)).2
  have h₄ := readU32_of_drop (ε := Error) hd₄
  rw [readU32_pos (by omega), Outcome.ok.injEq] at h₄
  refine ⟨?_, by rw [h₈, r.toNat_rdlength]⟩
  ext1
  · rfl
  · exact h₀
  · exact h₂
  · exact h₄
  · simp only [Record.behind, hd₁₀, h₈, r.toNat_rdlength, List.take_left]

theorem cutRecord_complete {r : Record} (hd : packet.drop off = r.bytes ++ rest) :
    cutRecord packet off = .ok (r, off + r.bytes.length) := by
  rw [Record.bytes, List.append_assoc] at hd
  have hn := cutName_complete hd (by simp [r.fields_ne_nil])
  have hf := drop_of_drop _ hd
  have hlen := length_of_drop hf (by simp [r.fields_ne_nil])
  rw [List.length_append, r.length_fields] at hlen
  obtain ⟨hr, hrd⟩ := Record.behind_eq hf
  simp only [cutRecord, hn, ok_bind]
  rw [usub_pos (by omega), ok_bind, ensure_pos (by omega), ok_bind, readU16_pos (by omega), ok_bind,
    usub_pos (by omega), ok_bind, ensure_pos (by omega), ok_bind, hr, hrd, r.length_bytes]
  simp only [pure_eq_ok, Nat.add_assoc]

theorem cutRecords_sound : ∀ {n off next : ℕ} {rs : List Record}, off ≤ packet.length →
    cutRecords packet n off = .ok (rs, next) → rs.length = n ∧
      packet.drop off = recordsBytes rs ++ packet.drop next ∧
        next = off + (recordsBytes rs).length ∧
      next ≤ packet.length := by
  intro n
  induction n with
  | zero =>
    intro off next rs hoff h
    simp only [cutRecords, pure_eq_ok, Outcome.ok.injEq, Prod.mk.injEq] at h
    obtain ⟨rfl, rfl⟩ := h
    simpa using hoff
  | succ n ih =>
    intro off next rs hoff h
    simp only [cutRecords, bind_eq_ok, pure_eq_ok, Prod.exists, Outcome.ok.injEq,
      Prod.mk.injEq] at h
    obtain ⟨r, e, hr, rs, e', hrs, rfl, rfl⟩ := h
    obtain ⟨hd, rfl, hle⟩ := cutRecord_sound hr
    obtain ⟨hn, hd', rfl, hle'⟩ := ih hle hrs
    refine ⟨by simp [hn], ?_, by simp; omega, hle'⟩
    rw [hd, hd', recordsBytes_cons, List.append_assoc]

theorem cutRecords_complete : ∀ {rs : List Record} {off : ℕ} {rest : List UInt8},
    packet.drop off = recordsBytes rs ++ rest →
      cutRecords packet rs.length off = .ok (rs, off + (recordsBytes rs).length) := by
  intro rs
  induction rs with
  | nil => intro off rest _; simp [cutRecords]
  | cons r rs ih =>
    intro off rest hd
    rw [recordsBytes_cons, List.append_assoc] at hd
    simp only [List.length_cons, cutRecords, cutRecord_complete hd, ok_bind,
      ih (drop_of_drop _ hd), pure_eq_ok]
    simp [Nat.add_assoc]

/-! ### The header -/

theorem drop_eq_header (h : 12 ≤ packet.length) :
    packet = u16Bytes (be16At packet 0) ++
      (u16Bytes (be16At packet 2) ++ (u16Bytes (be16At packet 4) ++
      (u16Bytes (be16At packet 6) ++ (u16Bytes (be16At packet 8) ++ (u16Bytes (be16At packet 10) ++
        packet.drop 12))))) := by
  rw [← drop_eq_u16Bytes (by omega), ← drop_eq_u16Bytes (by omega), ← drop_eq_u16Bytes (by omega),
    ← drop_eq_u16Bytes (by omega), ← drop_eq_u16Bytes (by omega), ← drop_eq_u16Bytes (by omega),
      List.drop_zero]

section

variable (m : Message)

theorem Message.drop_bytes : m.bytes.drop 12 = m.question.bytes ++ (recordsBytes m.answers ++
    (recordsBytes m.authorities ++ recordsBytes m.additionals)) := rfl

theorem Message.length_bytes : m.bytes.length ≥ 12 := by
  rw [Message.bytes, List.length_append, m.length_header]; omega

theorem Message.drop_four : m.bytes.drop 4 = u16Bytes 1 ++
    (u16Bytes (UInt16.ofNat m.answers.length) ++
    (u16Bytes (UInt16.ofNat m.authorities.length) ++
      (u16Bytes (UInt16.ofNat m.additionals.length) ++
      m.bytes.drop 12))) := rfl

theorem Message.qdcount_bytes : qdcount m.bytes = .ok 1 := readU16_of_drop m.drop_four

theorem Message.ancount_bytes : ancount m.bytes = .ok (UInt16.ofNat m.answers.length) :=
  readU16_of_drop (drop_of_drop (u16Bytes 1) m.drop_four)

theorem Message.nscount_bytes : nscount m.bytes = .ok (UInt16.ofNat m.authorities.length) :=
  readU16_of_drop (drop_of_drop (u16Bytes _) (drop_of_drop (u16Bytes 1) m.drop_four))

theorem Message.arcount_bytes : arcount m.bytes = .ok (UInt16.ofNat m.additionals.length) :=
  readU16_of_drop (drop_of_drop (u16Bytes _)
    (drop_of_drop (u16Bytes _) (drop_of_drop (u16Bytes 1) m.drop_four)))

theorem toNat_ofNat_count {n : ℕ} (h : n < 65536) : (UInt16.ofNat n).toNat = n := by
  rw [UInt16.toNat_ofNat']; omega

end

theorem segment_sound {m : Message} (h : segment packet = .ok m) : m.bytes = packet := by
  simp only [segment, bind_eq_ok, ensure_eq_ok, usub_eq_ok, readU16_eq_ok,
    qdcount, ancount, nscount,
    arcount, Prod.exists] at h
  obtain ⟨_, hlen, id, ⟨-, hid⟩, flags, ⟨-, hflags⟩, qd, ⟨-, hqd'⟩, _, hqd, nm, e, hn,
    _, ⟨hle, hleft⟩, _, hfour, qtype, ⟨-, hqtype⟩, qclass, ⟨-, hqclass⟩,
    an, ⟨-, han⟩, ans, e₁, hans, ns, ⟨-, hns⟩, auth, e₂, hauth,
    ar, ⟨-, har⟩, add, e₃, hadd, _, hend, h⟩ := h
  subst hid hflags hqd' hleft hqtype hqclass han hns har
  simp only [dnsHeaderSize] at hlen
  split at h
  · next hc =>
    simp only [pure_eq_ok, Outcome.ok.injEq] at h
    subst h
    obtain ⟨hd, rfl, -⟩ := cutName_sound hn
    obtain ⟨hn₁, hd₁, rfl, hle₁⟩ := cutRecords_sound (by omega) hans
    obtain ⟨hn₂, hd₂, rfl, hle₂⟩ := cutRecords_sound hle₁ hauth
    obtain ⟨hn₃, hd₃, rfl, hle₃⟩ := cutRecords_sound hle₂ hadd
    simp only [dnsOffsetQuestion, dnsHeaderSize] at hd hle hfour hd₁ hd₂ hd₃ hend
    conv_rhs => rw [drop_eq_header hlen, hd, drop_eq_u16Bytes (by omega),
      drop_eq_u16Bytes (by omega)]
    conv_rhs => rw [Nat.add_assoc _ 2 2, hd₁]
    conv_rhs => rw [hd₂, hd₃, ← hend, List.drop_length]
    simp only [Message.bytes, Message.header, Question.bytes, hn₁, hn₂, hn₃,
      hqd, UInt16.ofNat_toNat,
      List.append_assoc, List.append_nil]
  · simp at h

theorem segment_complete (m : Message) : segment m.bytes = .ok m := by
  have hq := m.drop_bytes
  rw [Question.bytes, List.append_assoc] at hq
  have hend := length_of_drop hq (by simp [u16Bytes])
  have hn := cutName_complete hq (by simp [u16Bytes])
  have hq₀ := drop_of_drop _ hq
  rw [List.append_assoc] at hq₀
  have hq₂ := drop_of_drop _ hq₀
  have h₀ := drop_of_drop _ hq₂
  have h₁ := drop_of_drop _ h₀
  have h₂ := drop_of_drop _ h₁
  have ha := cutRecords_complete h₀
  have hb := cutRecords_complete h₁
  have hc := cutRecords_complete (h₂.trans (List.append_nil _).symm)
  simp only [List.length_append, length_u16Bytes] at hend h₀ h₁ ha hb hc hq₂
  rw [Nat.add_assoc _ 2 2] at ha hb hc
  simp only [segment, dnsHeaderSize, dnsOffsetQuestion, ensure_pos m.length_bytes, ok_bind,
    readU16_of_drop (show m.bytes.drop 0 = u16Bytes m.id ++ m.bytes.drop 2 from rfl),
    readU16_of_drop (show m.bytes.drop 2 = u16Bytes m.flags ++ m.bytes.drop 4 from rfl),
    m.qdcount_bytes, ensure_true, hn, usub_pos (show 12 + m.question.name.bytes.length ≤
      m.bytes.length by omega), ensure_pos
        (show m.bytes.length - (12 + m.question.name.bytes.length) ≥ 4 by omega),
    readU16_of_drop hq₀, readU16_of_drop hq₂, m.ancount_bytes, m.nscount_bytes, m.arcount_bytes,
    toNat_ofNat_count m.counts.1, toNat_ofNat_count m.counts.2.1,
      toNat_ofNat_count m.counts.2.2, ha, hb, hc]
  rw [ensure_pos (by omega), ok_bind, dif_pos m.counts]
  rfl

/-- **A packet segments exactly to its end as `m` if and only if it is `m` written out.** -/
theorem segment_eq_ok_iff {m : Message} : segment packet = .ok m ↔ m.bytes = packet :=
  ⟨segment_sound, fun h => h ▸ segment_complete m⟩

theorem exists_append_of_le {α : Type} {l : List α} {n : ℕ} (h : n ≤ l.length) :
    ∃ l₁ l₂, l = l₁ ++ l₂ ∧ l₁.length = n :=
  ⟨l.take n, l.drop n, (List.take_append_drop n l).symm, List.length_take_of_le h⟩

/-- **A packet of one question and as many records as its header says** is a message. -/
theorem exists_message_of_records {e : ℕ} {rs : List Record} (hlen : 12 ≤ packet.length)
    (hqd : be16At packet 4 = 1) (he : skipName packet 12 = .ok e) (hfour : e + 4 ≤ packet.length)
    (hn : rs.length = (be16At packet 6).toNat + (be16At packet 8).toNat +
      (be16At packet 10).toNat)
    (hd : packet.drop (e + 4) = recordsBytes rs) :
    ∃ m : Message, m.bytes = packet ∧ m.answers ++ (m.authorities ++ m.additionals) = rs := by
  obtain ⟨nm, hnm, hname, rfl, -⟩ := skipName_sound he
  have han := (be16At packet 6).toNat_lt
  have hns := (be16At packet 8).toNat_lt
  have har := (be16At packet 10).toNat_lt
  -- the sections, as the header counts them
  obtain ⟨as, rs, rfl, ha⟩ := exists_append_of_le (show (be16At packet 6).toNat ≤ rs.length by omega)
  rw [List.length_append, ha] at hn
  obtain ⟨ns, ars, rfl, hs⟩ := exists_append_of_le (show (be16At packet 8).toNat ≤ rs.length by omega)
  rw [List.length_append, hs] at hn
  have hr : ars.length = (be16At packet 10).toNat := by omega
  refine ⟨⟨be16At packet 0, be16At packet 2,
    ⟨⟨nm, hnm⟩, be16At packet (12 + nm.length), be16At packet (12 + nm.length + 2)⟩, as, ns, ars,
    by omega, by omega, by omega⟩, ?_, rfl⟩
  conv_rhs => rw [drop_eq_header hlen, hname, drop_eq_u16Bytes (by omega),
    drop_eq_u16Bytes (by omega), Nat.add_assoc _ 2 2, hd]
  simp only [Message.bytes, Message.header, Question.bytes, ha, hs, hr, hqd, UInt16.ofNat_toNat,
    recordsBytes_append, List.append_assoc]

/-! ### Traversing records -/

section

variable {σ : Type}

/-- The calls `traverse_rrs` makes on records standing at `off`. -/
def foldOffsets (cb : ℕ → σ → Outcome Error σ) : List Record → ℕ → σ → Outcome Error σ
  | [], _, s => .ok s
  | r :: rs, off, s => do
    let s ← cb (off + r.name.bytes.length) s
    foldOffsets cb rs (off + r.bytes.length) s

/-- **Over a suffix that starts with records**, `traverse_rrs` calls back for each. -/
theorem traverseRrs_records (cb : ℕ → σ → Outcome Error σ) : ∀ {rs : List Record} {off : ℕ}
    {rest : List UInt8}
    {s : σ}, packet.drop off = recordsBytes rs ++ rest →
      traverseRrs packet cb rs.length off s =
        foldOffsets cb rs off s >>= fun s' => .ok (off + (recordsBytes rs).length, s') := by
  intro rs
  induction rs with
  | nil => intro off rest s _; simp [traverseRrs, foldOffsets]
  | cons r rs ih =>
    intro off rest s hd
    rw [recordsBytes_cons, List.append_assoc] at hd
    have hd' := hd
    rw [Record.bytes, List.append_assoc] at hd'
    have hn := skipName_complete r.name.valid hd' (by simp [r.fields_ne_nil])
    have hf := drop_of_drop _ hd'
    have hlen := length_of_drop hf (by simp [r.fields_ne_nil])
    rw [List.length_append, r.length_fields] at hlen
    obtain ⟨-, hrd⟩ := Record.behind_eq hf
    simp only [List.length_cons, traverseRrs, foldOffsets, hn, ok_bind]
    rw [usub_pos (by omega), ok_bind, ensure_pos (by omega), ok_bind]
    cases cb (off + r.name.bytes.length) s with
    | ok s' =>
      rw [ok_bind, ok_bind, readU16_pos (by omega), ok_bind, usub_pos (by omega), ok_bind,
        ensure_pos (by omega), ok_bind, hrd]
      have := ih (s := s') (drop_of_drop _ hd)
      rw [r.length_bytes, ← Nat.add_assoc, ← Nat.add_assoc] at this
      rw [this, recordsBytes_cons, List.length_append, r.length_bytes]
      simp only [Nat.add_assoc]
    | err => rfl
    | panic => rfl
    | timeout => rfl

/-- After a name, with ten bytes and the data they announce, a record ends. -/
theorem exists_record {e : ℕ} (he : skipName packet off = .ok e)
    (h : e + 10 + (be16At packet (e + 8)).toNat ≤ packet.length) :
    ∃ r : Record, packet.drop off = r.bytes ++
      packet.drop (e + 10 + (be16At packet (e + 8)).toNat) ∧
      e + 10 + (be16At packet (e + 8)).toNat = off + r.bytes.length ∧
        e = off + r.name.bytes.length ∧
      be16At packet e = r.rtype := by
  obtain ⟨nm, hnm, hd, rfl, -⟩ := skipName_sound he
  obtain ⟨hf, hlen⟩ := Record.fields_behind ⟨nm, hnm⟩ h
  refine ⟨Record.behind packet ⟨nm, hnm⟩ (off + nm.length), ?_, ?_, rfl, rfl⟩
  · rw [hd, hf, Record.bytes, List.append_assoc]
    rfl
  · rw [Record.bytes, List.length_append, hlen, Record.behind]
    simp only; omega

/-- A record's name ends where `skip_name` says, and its data where RDLENGTH says. -/
theorem skipName_record {r : Record} (hd : packet.drop off = r.bytes ++ rest) :
    skipName packet off = .ok (off + r.name.bytes.length) ∧
      (be16At packet (off + r.name.bytes.length + 8)).toNat = r.rdata.length ∧
      be16At packet (off + r.name.bytes.length) = r.rtype ∧
        off + r.bytes.length ≤ packet.length := by
  have hlen := length_of_drop hd (by simp [Record.bytes, r.fields_ne_nil])
  rw [Record.bytes, List.append_assoc] at hd
  obtain ⟨hr, hrd⟩ := Record.behind_eq (drop_of_drop _ hd)
  refine ⟨skipName_complete r.name.valid hd (by simp [r.fields_ne_nil]), hrd,
    congrArg Record.rtype hr, ?_⟩
  rw [hlen, List.length_append]; omega

/-- **Where `traverse_rrs` succeeds**, the suffix starts with records. -/
theorem traverseRrs_sound {cb : ℕ → σ → Outcome Error σ} : ∀ {n off next : ℕ} {s s' : σ},
    off ≤ packet.length → traverseRrs packet cb n off s = .ok (next, s') →
      ∃ rs : List Record, rs.length = n ∧ packet.drop off = recordsBytes rs ++ packet.drop next ∧
        next = off + (recordsBytes rs).length ∧ next ≤ packet.length := by
  intro n
  induction n with
  | zero =>
    intro off next s s' hoff h
    simp only [traverseRrs, pure_eq_ok, Outcome.ok.injEq, Prod.mk.injEq] at h
    obtain ⟨rfl, -⟩ := h
    exact ⟨[], rfl, rfl, rfl, hoff⟩
  | succ n ih =>
    intro off next s s' hoff h
    simp only [traverseRrs, bind_eq_ok, usub_eq_ok, ensure_eq_ok, readU16_eq_ok] at h
    obtain ⟨e, he, _, ⟨hle, rfl⟩, _, hten, s₁, -, _, ⟨-, rfl⟩, _, ⟨hle', rfl⟩, _, hrd, h⟩ := h
    obtain ⟨r, hd, hnext, -⟩ := exists_record he (by omega)
    obtain ⟨rs, hn, hd', rfl, hle''⟩ := ih (by omega) h
    refine ⟨r :: rs, by simp [hn], ?_, ?_, hle''⟩
    · rw [hd, hd', recordsBytes_cons, List.append_assoc]
    · rw [recordsBytes_cons, List.length_append, hnext, Nat.add_assoc]

/-- `traverse_rrs` panics only where its callback does. -/
theorem traverseRrs_safe {cb : ℕ → σ → Outcome Error σ} (hcb : ∀ off s, off + 10 ≤ packet.length →
    (cb off s).Finished) : ∀ {n off : ℕ} {s : σ}, packet ≠ [] → off ≤ packet.length →
      Safe (fun r => off ≤ r.1 ∧ r.1 ≤ packet.length) (traverseRrs packet cb n off s) := by
  intro n
  induction n with
  | zero => intro off s _ hoff; exact ⟨le_rfl, hoff⟩
  | succ n ih =>
    intro off s hp hoff
    refine (skipName_safe hp off).bind fun e _ he => ?_
    refine (safe_usub he.2).bind fun room _ hroom => ?_
    refine safe_ensure.bind fun _ _ hten => ?_
    refine Safe.bind (safe_true_iff.mpr (hcb e s (by omega))) fun s' _ _ => ?_
    rw [readU16_pos (by omega), ok_bind]
    refine (safe_usub (by omega)).bind fun room' _ hroom' => ?_
    refine safe_ensure.bind fun _ _ hrd => ?_
    exact (ih hp (by omega)).mono fun r hr => ⟨by omega, hr.2⟩

/-- With a callback that does not write, `traverse_rrs_mut` is `traverse_rrs`. -/
theorem traverseRrsMut_reads (cb : Packet → ℕ → σ → Outcome Error σ) : ∀ {n off : ℕ} {s : σ},
    traverseRrsMut packet.length (fun off s => Proc.reads fun p => cb p off s) n off s packet =
      (traverseRrs packet (cb packet) n off s, packet) := by
  intro n
  induction n with
  | zero => intro off s; rfl
  | succ n ih =>
    intro off s
    refine Proc.next_eq fun e => ?_
    refine Proc.next_eq fun room => ?_
    refine Proc.next_eq fun _ => ?_
    refine Proc.next_eq fun s' => ?_
    refine Proc.next_eq fun rdlen => ?_
    refine Proc.next_eq fun room' => ?_
    exact Proc.next_eq fun _ => ih

end

end DohProxy.Dns
