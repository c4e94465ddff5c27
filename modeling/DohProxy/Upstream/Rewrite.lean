import DohProxy.Net.IpAddr
import DohProxy.Upstream.Msg

/-!
# Addresses in a reply

The rest of `msg.rs`: the addresses that a message has in its answers, the type a query asks for,
and the rewriting of a reply in place so that every address in its answers is the selected one.
The rewriter has a walker of its own, `Name.skipWire`, which does not follow pointers.

## What is proved

`rewriteAnswerIpsInPacket_of_unpack` — **in a packet that the parser accepts, the rewriter sets the
data of the answers that have an address of the selected family, and nothing else.**
-/

namespace DohProxy.Upstream

open Lib Outcome Net

/-! ### The addresses of a message -/

/-- The addresses in the answers. -/
def Msg.answerIps (m : Msg) : List IpAddr :=
  m.answers.filterMap fun rr =>
    if rr.rrClass ≠ dnsClassIn then none
    else
      match rr.rrType with
      | .A => if h : rr.rdata.length = 4 then some (.v4 ⟨rr.rdata.toArray, h⟩) else none
      | .AAAA => if h : rr.rdata.length = 16 then some (.v6 ⟨rr.rdata.toArray, h⟩) else none
      | _ => none

/-- Whether an address is in the answers. -/
def Msg.containsAnswerIp (m : Msg) (targetIp : IpAddr) : Bool :=
  m.answers.any fun rr =>
    if rr.rrClass ≠ dnsClassIn then false
    else
      match rr.rrType, targetIp with
      | .A, .v4 ip => rr.rdata.length = 4 && rr.rdata = ip.toList
      | .AAAA, .v6 ip => rr.rdata.length = 16 && rr.rdata = ip.toList
      | _, _ => false

/-! ### Walking without following pointers -/

/-- The loop of `skip_wire`. -/
def Name.skipWireLoop (packet : List UInt8) : ℕ → ℕ → Outcome MsgError ℕ
  | 0, _ => .timeout
  | fuel + 1, current =>
    match packet[current]? with
    | none => .err .shortPacket
    | some len =>
      if len &&& 0xc0 = 0xc0 then
        match packet[current + 1]? with
        | none => .err .shortPacket
        | some _ => return current + 2
      else if len &&& 0xc0 = 0 then do
        let labelLen := len.toNat
        ensure (¬ labelLen ≥ 0x40) .invalidLabelLength
        let current := current + (1 + labelLen)
        if labelLen = 0 then return current
        else
          ensure (¬ current > packet.length) .shortPacket
          skipWireLoop packet fuel current
      else .err .invalidLabelLength

/-- The offset after the name at `offset`. -/
def Name.skipWire (packet : List UInt8) (offset : ℕ) : Outcome MsgError ℕ :=
  skipWireLoop packet (packet.length + 1) offset

/-- The type a packet asks for. -/
def Msg.qtypeFromPacket (packet : List UInt8) : Outcome Empty (Option RrType) := do
  let qdcount := if 6 ≤ packet.length then be16At packet 4 else 0
  if qdcount = 0 then return none
  else
    match ← (Name.skipWire packet dnsHeaderSize).option with
    | none => return none
    | some offset =>
      if packet.length - offset < 4 then return none
      else return some (RrType.fromU16 (← readU16 packet offset))

/-- The loop over the questions. -/
def skipQuestions (packet : List UInt8) : ℕ → ℕ → Outcome MsgError ℕ
  | 0, offset => return offset
  | qdcount + 1, offset => do
    let offset ← Name.skipWire packet offset
    ensure (¬ packet.length - offset < 4) .shortPacket
    skipQuestions packet qdcount (offset + 4)

/-- What is read of a record: its type and class, and where its data is. -/
structure Slot where
  /-- The type. -/
  rrType : RrType
  /-- The class. -/
  rrClass : UInt16
  /-- The offset of the data. -/
  rdataOffset : ℕ
  /-- The length of the data. -/
  rdlen : ℕ
  deriving DecidableEq

/-- The record at `offset`. -/
def readSlot (packet : List UInt8) (offset : ℕ) : Outcome MsgError Slot := do
  let offset ← Name.skipWire packet offset
  ensure (¬ packet.length - offset < 10) .shortPacket
  let rrType ← readU16 packet offset
  let rrClass ← readU16 packet (offset + 2)
  let rdlen ← readU16 packet (offset + 8)
  let rdataOffset := offset + 10
  ensure (¬ packet.length - rdataOffset < rdlen.toNat) .invalidRecord
  return ⟨RrType.fromU16 rrType, rrClass, rdataOffset, rdlen.toNat⟩

/-- The packet with the selected address for a record's data, where it is an address of that family. -/
def Slot.rewrite (selectedIp : IpAddr) (slot : Slot) (packet : List UInt8) :
    Outcome MsgError (List UInt8) :=
  if slot.rrClass = dnsClassIn then
    match slot.rrType, selectedIp with
    | .A, .v4 ip => if slot.rdlen = 4 then writeBytes packet slot.rdataOffset ip.toList
      else return packet
    | .AAAA, .v6 ip => if slot.rdlen = 16 then writeBytes packet slot.rdataOffset ip.toList
      else return packet
    | _, _ => return packet
  else return packet

/-- The loop over the answers. -/
def rewriteAnswers (selectedIp : IpAddr) : ℕ → ℕ → Proc (List UInt8) MsgError ℕ
  | 0, offset => return offset
  | ancount + 1, offset => do
    let slot ← Proc.reads fun packet => readSlot packet offset
    Proc.modifies (slot.rewrite selectedIp)
    rewriteAnswers selectedIp ancount (slot.rdataOffset + slot.rdlen)

/-- The loop over the other records. -/
def skipRecords (packet : List UInt8) : ℕ → ℕ → Outcome MsgError ℕ
  | 0, offset => return offset
  | count + 1, offset => do
    let slot ← readSlot packet offset
    skipRecords packet count (slot.rdataOffset + slot.rdlen)

/-- Setting the addresses in the answers of a packet to the selected one. -/
def Msg.rewriteAnswerIpsInPacket (selectedIp : IpAddr) : Proc (List UInt8) MsgError Unit := do
  Proc.reads fun packet => ensure (¬ packet.length < dnsHeaderSize) .shortPacket
  let qdcount ← Proc.reads fun packet => readU16 packet 4
  let ancount ← Proc.reads fun packet => readU16 packet 6
  let nscount ← Proc.reads fun packet => readU16 packet 8
  let arcount ← Proc.reads fun packet => readU16 packet 10
  let offset ← Proc.reads fun packet => skipQuestions packet qdcount.toNat dnsHeaderSize
  let offset ← rewriteAnswers selectedIp ancount.toNat offset
  let offset ← Proc.reads fun packet => skipRecords packet (nscount.toNat + arcount.toNat) offset
  Proc.reads fun packet => ensure (offset = packet.length) .trailingBytes

/-! ### Records with an address -/

/-- The type of the records that have an address of a family. -/
def addressType : IpAddr → RrType
  | .v4 _ => .A
  | .v6 _ => .AAAA

/-- The record has an address, of the same family as `ip`. -/
def ResourceRecord.HasAddressLike (rr : ResourceRecord) (ip : IpAddr) : Prop :=
  rr.rrClass = dnsClassIn ∧ rr.rrType = addressType ip ∧ rr.rdata.length = ip.octets.length

instance (rr : ResourceRecord) (ip : IpAddr) : Decidable (rr.HasAddressLike ip) :=
  inferInstanceAs (Decidable (_ ∧ _))

/-- An address is in the answers if it is the data of one of them. -/
theorem Msg.mem_answerIps_iff {m : Msg} {ip : IpAddr} :
    ip ∈ m.answerIps ↔ ∃ rr ∈ m.answers, rr.HasAddressLike ip ∧ rr.rdata = ip.octets := by
  simp only [answerIps, List.mem_filterMap]
  refine exists_congr fun rr => and_congr_right fun _ => ?_
  by_cases hclass : rr.rrClass = dnsClassIn
  · simp only [hclass, ne_eq, not_true_eq_false, if_false, ResourceRecord.HasAddressLike, true_and]
    constructor
    · split
      · next ht =>
        rw [Option.dite_none_right_eq_some]
        rintro ⟨hlen, h⟩
        cases h
        exact ⟨⟨ht, by simp [IpAddr.octets]⟩, by simp [IpAddr.octets]⟩
      · next ht =>
        rw [Option.dite_none_right_eq_some]
        rintro ⟨hlen, h⟩
        cases h
        exact ⟨⟨ht, by simp [IpAddr.octets]⟩, by simp [IpAddr.octets]⟩
      · simp
    · rintro ⟨⟨ht, hlen⟩, hdata⟩
      cases ip with
      | v4 addr => simp only [ht, addressType, hdata]; simp [IpAddr.octets, Vector.toList]
      | v6 addr => simp only [ht, addressType, hdata]; simp [IpAddr.octets, Vector.toList]
  · simp [hclass, ResourceRecord.HasAddressLike]

theorem Msg.containsAnswerIp_iff {m : Msg} {ip : IpAddr} :
    m.containsAnswerIp ip = true ↔ ∃ rr ∈ m.answers, rr.HasAddressLike ip ∧
      rr.rdata = ip.octets := by
  rw [containsAnswerIp, List.any_eq_true]
  refine exists_congr fun rr => and_congr_right fun _ => ?_
  by_cases hclass : rr.rrClass = dnsClassIn
  · simp only [hclass, ne_eq, not_true_eq_false, if_false, ResourceRecord.HasAddressLike, true_and]
    split
    · next addr ht => simp [ht, addressType, IpAddr.octets]
    · next addr ht => simp [ht, addressType, IpAddr.octets]
    · next target _ _ h4 h6 =>
      constructor
      · intro h
        cases h
      · rintro ⟨⟨ht, -⟩, -⟩
        cases target with
        | v4 addr => exact (h4 addr ht rfl).elim
        | v6 addr => exact (h6 addr ht rfl).elim
  · simp [hclass, ResourceRecord.HasAddressLike]

/-! ### The walker and the parser -/

section

variable {packet cur : List UInt8}

/-- The walker gets to where a name ends, also in a packet that is the same only from the name on. -/
theorem Name.skipWireLoop_of_wireName {k off next : ℕ} {labels : List (List UInt8)}
    (h : WireName packet k off labels next) (hlen : cur.length = packet.length) :
    ∀ {fuel : ℕ}, cur.drop off = packet.drop off → packet.length < fuel + off →
      skipWireLoop cur fuel off = .ok next := by
  have hget : ∀ {i j : ℕ}, cur.drop i = packet.drop i → cur[i + j]? = packet[i + j]? := by
    intro i j hd
    rw [← List.getElem?_drop, hd, List.getElem?_drop]
  induction h with
  | @root off hb =>
    intro fuel hd hfuel
    have hlt := (List.getElem?_eq_some_iff.mp hb).1
    obtain ⟨fuel, rfl⟩ := Nat.exists_eq_succ_of_ne_zero (show fuel ≠ 0 by omega)
    have hb' : cur[off]? = some 0 := (hget (j := 0) hd).trans hb
    simp [skipWireLoop, hb']
  | @label k off next len bs labels hb hpos hlt hbs hd₁ h ih =>
    intro fuel hd hfuel
    have hle := h.lt_next
    obtain ⟨fuel, rfl⟩ := Nat.exists_eq_succ_of_ne_zero (show fuel ≠ 0 by omega)
    have hb' : cur[off]? = some len := (hget (j := 0) hd).trans hb
    have hc0 : ¬ len &&& 0xc0 = 0xc0 := fun hc => by have := (and_c0_eq_c0_iff len).mp hc; omega
    have hz : len &&& 0xc0 = 0 := (and_c0_eq_zero_iff len).mpr hlt
    have hstop : ¬ off + (1 + len.toNat) > cur.length := by omega
    have hd' : cur.drop (off + 1 + len.toNat) = packet.drop (off + 1 + len.toNat) := by
      rw [Nat.add_assoc, ← List.drop_drop, hd, List.drop_drop]
    simp only [skipWireLoop, hb', if_neg hc0, if_pos hz, ensure_pos (Nat.not_le.mpr hlt),
      ok_bind, if_neg hpos.ne',
      ensure_pos hstop]
    rw [← Nat.add_assoc]
    exact ih hd' (by omega)
  | @pointer k off next high low labels hb hh hl hptr h ih =>
    intro fuel hd hfuel
    have hlt := (List.getElem?_eq_some_iff.mp hb).1
    obtain ⟨fuel, rfl⟩ := Nat.exists_eq_succ_of_ne_zero (show fuel ≠ 0 by omega)
    have hb' : cur[off]? = some high := (hget (j := 0) hd).trans hb
    have hl' : cur[off + 1]? = some low := (hget hd).trans hl
    simp only [skipWireLoop, hb', if_pos ((and_c0_eq_c0_iff high).mpr hh), hl', pure_eq_ok]

theorem Name.skipWire_of_fromWire {off next : ℕ} {name : Name}
    (h : Name.fromWire packet off = .ok (name, next))
    (hlen : cur.length = packet.length) (hd : cur.drop off =
      packet.drop off) : Name.skipWire cur off = .ok next := by
  obtain ⟨_, -, -, hname⟩ := Name.fromWire_eq_ok_iff.mp h
  exact skipWireLoop_of_wireName hname hlen hd (by omega)

/-- After a record that the parser reads there is where the walker goes on. -/
theorem readSlot_of_unpackRr {off next : ℕ} {rr : ResourceRecord}
    (h : unpackRr packet off = .ok (rr, next))
    (hlen : cur.length = packet.length) (hd : cur.drop off = packet.drop off) :
    ∃ rdataOffset, readSlot cur off = .ok ⟨rr.rrType, rr.rrClass, rdataOffset, rr.rdata.length⟩ ∧
      off < rdataOffset ∧
      next = rdataOffset + rr.rdata.length ∧ next ≤ packet.length := by
  simp only [unpackRr, bind_eq_ok, Prod.exists, ensure_eq_ok, readU16_eq_ok] at h
  obtain ⟨name, e, hname, _, hroom, rrType, ⟨-, ht⟩, rrClass, ⟨-, hc⟩, ttl, -, rdlen, ⟨hten, hr⟩, _,
    hfit, rdata, hrdata, h⟩ := h
  cases h
  obtain ⟨_, -, -, hwire⟩ := Name.fromWire_eq_ok_iff.mp hname
  have hlt := hwire.lt_next.1
  have hrdlen : rdata.length = rdlen.toNat := by
    rw [slice_pos ⟨Nat.le_add_right _ _, by omega⟩, Outcome.ok.injEq] at hrdata
    rw [← hrdata, List.length_drop, List.length_take]
    omega
  have hread : ∀ i, be16At cur (e + i) = be16At packet (e + i) := by
    intro i
    rw [← Nat.add_sub_cancel' hlt.le, Nat.add_assoc, ← be16At_drop, hd, be16At_drop]
  refine ⟨e + 10, ?_, by omega, by rw [hrdlen], by omega⟩
  simp only [readSlot, Name.skipWire_of_fromWire hname hlen hd, ok_bind]
  rw [ensure_pos (by omega), readU16_pos (by omega), readU16_pos (by omega), readU16_pos (by omega)]
  simp only [ok_bind, hread, hr]
  rw [ensure_pos (by omega), ok_bind, ← Nat.add_zero e, hread, Nat.add_zero, ht, hc, hrdlen]
  rfl

theorem skipQuestions_of_unpackQuestions : ∀ {n off stop : ℕ} {questions : List Question},
    Msg.unpackQuestions packet n off = .ok (questions, stop) →
      skipQuestions packet n off = .ok stop := by
  intro n
  induction n with
  | zero =>
    intro off stop questions h
    cases h
    rfl
  | succ n ih =>
    intro off stop questions h
    obtain ⟨name, next, rest, hname, -, hle, hrest, rfl⟩ := Msg.unpackQuestions_succ h
    rw [skipQuestions, Name.skipWire_of_fromWire hname rfl rfl, ok_bind,
      ensure_pos (show ¬ packet.length - next < 4 by omega), ok_bind, ih hrest]

theorem skipRecords_of_unpackRrSection (hlen : cur.length = packet.length) :
    ∀ {n off stop : ℕ} {records : List ResourceRecord},
    cur.drop off = packet.drop off → unpackRrSection packet n off = .ok (records, stop) →
      skipRecords cur n off = .ok stop := by
  intro n
  induction n with
  | zero =>
    intro off stop records _ h
    cases h
    rfl
  | succ n ih =>
    intro off stop records hd h
    obtain ⟨rr, next, rest, hrr, hrest, rfl⟩ := unpackRrSection_succ h
    obtain ⟨rdataOffset, hslot, hlt, rfl, -⟩ := readSlot_of_unpackRr hrr hlen hd
    have hd' : cur.drop (rdataOffset + rr.rdata.length) =
      packet.drop (rdataOffset + rr.rdata.length) := by
      rw [show rdataOffset + rr.rdata.length =
        off + (rdataOffset + rr.rdata.length - off) by omega, ← List.drop_drop, hd,
        List.drop_drop]
    rw [skipRecords, hslot, ok_bind]
    exact ih hd' hrest

end

/-! ### What the rewriter does -/

/-- The records of a section, each with the offset of its data. -/
def locateRecords (packet : List UInt8) : ℕ → ℕ → List (ResourceRecord × ℕ)
  | 0, _ => []
  | n + 1, offset =>
    match unpackRr packet offset with
    | .ok (rr, next) => (rr, next - rr.rdata.length) :: locateRecords packet n next
    | _ => []

/-- The answers of a packet, each with the offset of its data. -/
def locateAnswers (packet : List UInt8) : List (ResourceRecord × ℕ) :=
  match Msg.unpackQuestions packet (be16At packet 4).toNat dnsHeaderSize with
  | .ok (_, offset) => locateRecords packet (be16At packet 6).toNat offset
  | _ => []

/-- The data of certain records is set to `octets`, and nothing else is changed. -/
structure RdataSet (records : List (ResourceRecord × ℕ)) (which : ResourceRecord → Prop)
    (octets : List UInt8)
    (packet out : List UInt8) : Prop where
  /-- The packet keeps its length. -/
  length : out.length = packet.length
  /-- The data of these records is set. -/
  set : ∀ rr off, (rr, off) ∈ records → which rr → (out.drop off).take rr.rdata.length = octets
  /-- All bytes outside are kept. -/
  kept : ∀ i, (∀ rr off, (rr, off) ∈ records → which rr → ¬ (off ≤ i ∧ i < off + rr.rdata.length)) →
    out[i]? = packet[i]?

/-- The records that are located are those of the section. -/
theorem map_locateRecords {packet : List UInt8} :
    ∀ {n off stop : ℕ} {records : List ResourceRecord},
    unpackRrSection packet n off = .ok (records, stop) →
      (locateRecords packet n off).map Prod.fst = records := by
  intro n
  induction n with
  | zero =>
    intro off stop records h
    cases h
    rfl
  | succ n ih =>
    intro off stop records h
    obtain ⟨rr, next, rest, hrr, hrest, rfl⟩ := unpackRrSection_succ h
    rw [locateRecords, hrr, List.map_cons, ih hrest]

theorem map_locateAnswers {packet : List UInt8} {m : Msg} (h : Msg.unpack packet = .ok m) :
    (locateAnswers packet).map Prod.fst = m.answers := by
  obtain ⟨-, -, -, o₁, o₂, o₃, h₁, h₂, -, -⟩ := Msg.unpack_eq_ok.mp h
  rw [locateAnswers, h₁]
  exact map_locateRecords h₂

section

variable {packet : List UInt8} {ip : IpAddr} {rr : ResourceRecord} {rdataOffset : ℕ}

theorem Slot.rewrite_of_hasAddressLike (h : rr.HasAddressLike ip) :
    Slot.rewrite ip ⟨rr.rrType, rr.rrClass, rdataOffset, rr.rdata.length⟩ packet =
      writeBytes packet rdataOffset ip.octets := by
  obtain ⟨hc, ht, hlen⟩ := h
  cases ip with
  | v4 addr => simp [rewrite, hc, ht, hlen, addressType, IpAddr.octets]
  | v6 addr => simp [rewrite, hc, ht, hlen, addressType, IpAddr.octets]

theorem Slot.rewrite_of_not_hasAddressLike (h : ¬ rr.HasAddressLike ip) :
    Slot.rewrite ip ⟨rr.rrType, rr.rrClass, rdataOffset, rr.rdata.length⟩ packet = .ok packet := by
  simp only [rewrite, pure_eq_ok]
  split
  · next hc =>
    split
    · next addr ht => exact if_neg fun hlen => h ⟨hc, ht, by simpa [IpAddr.octets] using hlen⟩
    · next addr ht => exact if_neg fun hlen => h ⟨hc, ht, by simpa [IpAddr.octets] using hlen⟩
    · rfl
  · rfl

/-- What becomes of one record. -/
theorem Slot.rewrite_spec (ip : IpAddr) (hfit : rdataOffset + rr.rdata.length ≤ packet.length) :
    ∃ out, Slot.rewrite ip ⟨rr.rrType, rr.rrClass, rdataOffset, rr.rdata.length⟩ packet = .ok out ∧
      out.take rdataOffset = packet.take rdataOffset ∧
      out.drop (rdataOffset + rr.rdata.length) = packet.drop (rdataOffset + rr.rdata.length) ∧
      RdataSet [(rr, rdataOffset)] (·.HasAddressLike ip) ip.octets packet out := by
  by_cases h : rr.HasAddressLike ip
  · have hlen := h.2.2
    have hle : rdataOffset ≤ packet.length := by omega
    refine ⟨setBytes packet rdataOffset ip.octets, ?_, take_setBytes hle le_rfl, ?_, ?_, ?_, ?_⟩
    · rw [rewrite_of_hasAddressLike h, writeBytes_pos (by omega)]
    · rw [hlen, drop_setBytes hle le_rfl]
    · exact length_setBytes (by omega)
    · intro rr off hmem _
      cases List.mem_singleton.mp hmem
      rw [hlen, slice_setBytes hle]
    · intro i hi
      have hout := hi rr rdataOffset (List.mem_singleton_self _) h
      rcases Nat.lt_or_ge i rdataOffset with hlt | hge
      · rw [← List.getElem?_take_of_lt hlt, take_setBytes hle le_rfl, List.getElem?_take_of_lt hlt]
      · rw [← Nat.add_sub_cancel' (show rdataOffset + ip.octets.length ≤
          i by omega), ← List.getElem?_drop,
          drop_setBytes hle le_rfl, List.getElem?_drop]
  · refine ⟨packet, rewrite_of_not_hasAddressLike h, rfl, rfl, rfl, ?_, fun _ _ => rfl⟩
    intro rr off hmem hrr
    cases List.mem_singleton.mp hmem
    exact absurd hrr h

end

/-- Lists that agree up to some place agree up to every place before it. -/
theorem take_eq_of_take_eq {as bs : List UInt8} {i j : ℕ} (h : as.take j = bs.take j) (hij : i ≤ j) :
    as.take i = bs.take i := by
  have := congrArg (List.take i) h
  rwa [List.take_take, List.take_take, Nat.min_eq_left hij] at this

/-- **The loop over the answers**, in a packet that is the same from the answers on. -/
theorem rewriteAnswers_spec {packet : List UInt8} (ip : IpAddr) :
    ∀ {n off stop : ℕ} {records : List ResourceRecord}
    {cur : List UInt8}, cur.length = packet.length → cur.drop off = packet.drop off →
      unpackRrSection packet n off = .ok (records, stop) →
      ∃ out, rewriteAnswers ip n off cur = (.ok stop, out) ∧ out.take off = cur.take off ∧
        out.drop stop = packet.drop stop ∧
          RdataSet (locateRecords packet n off) (·.HasAddressLike ip) ip.octets cur out := by
  intro n
  induction n with
  | zero =>
    intro off stop records cur hlen hd h
    cases h
    exact ⟨cur, rfl, rfl, hd, rfl, nofun, fun _ _ => rfl⟩
  | succ n ih =>
    intro off stop records cur hlen hd h
    obtain ⟨rr, next, rest, hrr, hrest, rfl⟩ := unpackRrSection_succ h
    obtain ⟨o, hslot, hlt, rfl, hle⟩ := readSlot_of_unpackRr hrr hlen hd
    obtain ⟨mid, hmid, htake, hdrop, hset⟩ := Slot.rewrite_spec ip (hle.trans_eq hlen.symm)
    have hd' : mid.drop (o + rr.rdata.length) = packet.drop (o + rr.rdata.length) := by
      rw [hdrop, show o + rr.rdata.length =
        off + (o + rr.rdata.length - off) by omega, ← List.drop_drop, hd,
        List.drop_drop]
    obtain ⟨out, hout, htake', hstop, hset'⟩ := ih (hset.length.trans hlen) hd' hrest
    have hlocate : locateRecords packet (n + 1) off = (rr, o) ::
      locateRecords packet n (o + rr.rdata.length) := by
      rw [locateRecords, hrr]
      dsimp only
      rw [Nat.add_sub_cancel]
    refine ⟨out, ?_, ?_, hstop, hset'.length.trans hset.length, ?_, ?_⟩
    · rw [rewriteAnswers]
      exact Proc.reads_bind_eq_ok.mpr ⟨_, hslot, Proc.modifies_bind_eq_ok.mpr ⟨mid, hmid, hout⟩⟩
    · calc out.take off = mid.take off := take_eq_of_take_eq htake' (by omega)
        _ = cur.take off := take_eq_of_take_eq htake hlt.le
    · rw [hlocate]
      rintro rr' off' (_ | ⟨_, hmem⟩) hlike
      · rw [← hset.set rr o (List.mem_singleton_self _) hlike]
        rw [List.take_drop, htake', List.take_drop]
      · exact hset'.set rr' off' hmem hlike
    · intro i hi
      rw [hlocate] at hi
      rw [hset'.kept i fun rr' off' hmem => hi rr' off' (List.mem_cons_of_mem _ hmem)]
      refine hset.kept i fun rr' off' hmem => hi rr' off' ?_
      cases List.mem_singleton.mp hmem
      exact List.mem_cons_self

/-- **A packet that the parser accepts is rewritten**, in the answers that have an address of the
selected family. -/
theorem Msg.rewriteAnswerIpsInPacket_of_unpack {packet : List UInt8} {m : Msg}
    (h : Msg.unpack packet = .ok m)
    (ip : IpAddr) : ∃ out, Msg.rewriteAnswerIpsInPacket ip packet = (.ok (), out) ∧
      RdataSet (locateAnswers packet) (·.HasAddressLike ip) ip.octets packet out := by
  obtain ⟨hlen, -, -, o₁, o₂, o₃, h₁, h₂, h₃, h₄⟩ := Msg.unpack_eq_ok.mp h
  rw [dnsHeaderSize] at hlen
  obtain ⟨out, hout, -, hstop, hset⟩ := rewriteAnswers_spec ip rfl rfl h₂
  have hread : ∀ i, i ≤ 10 → (readU16 packet i : Outcome MsgError UInt16) = .ok (be16At packet i) :=
    fun i hi => readU16_pos (Nat.le_trans (Nat.add_le_add_right hi 2) hlen)
  refine ⟨out, ?_, ?_⟩
  · simp only [rewriteAnswerIpsInPacket, Proc.bind_apply, Proc.reads_apply,
      ensure_pos (Nat.not_lt.mpr hlen), Proc.next_ok,
      hread 4 (by decide), hread 6 (by decide), hread 8 (by decide), hread 10 (by decide),
      skipQuestions_of_unpackQuestions h₁, hout,
        skipRecords_of_unpackRrSection hset.length hstop (unpackRrSection_add h₃ h₄),
      ensure_pos hset.length.symm]
  · rw [locateAnswers, h₁]
    exact hset

end DohProxy.Upstream
