import DohProxy.Net.IpAddr
import DohProxy.Dns.Packet
import DohProxy.Upstream.Msg

/-!
# From JSON parameters to a query

`build_dns_query` of `dns_json.rs` writes the query for a request of the JSON interface.
The name comes from the client as it is: each piece between dots is written with its
length before it, whatever that is.

## The model

A name is the bytes of its text. The transaction id is random: its two bytes are arguments.

## What is proved

`buildDnsQuery_asked_iff` — **the upstream layer's parser reads back what was asked exactly
when the name is one a packet can hold**: no piece longer than 63 bytes, and no more than
255 octets in all.
-/

namespace DohProxy.Json

open Lib Outcome Net Dns Upstream

/-- The type of IPv4 addresses. -/
def typeA : UInt16 := 1

/-- The class of the Internet. -/
def classIn : UInt16 := 1

/-- The parameters of a request. -/
structure DnsJsonQuery where
  /-- The name to look up. -/
  name : List UInt8
  /-- The type to look up. -/
  qtype : Option UInt16
  /-- Whether checking is to be disabled. -/
  cd : Option Bool
  /-- Whether DNSSEC records are wanted. -/
  do_ : Option Bool
  /-- The subnet to tell the upstream. -/
  ednsClientSubnet : Option (List UInt8)
  deriving DecidableEq

/-- The pieces of a name. -/
def pieces (name : List UInt8) : List (List UInt8) :=
  (name.splitOn 0x2e).filter fun label => !label.isEmpty

/-- The name as the query gets it. A length above 255 loses its high bits. -/
def questionName (name : List UInt8) : List UInt8 :=
  (pieces name).flatMap fun label => UInt8.ofNat label.length :: label

/-- The client subnet option, if there is an IPv4 address for it. -/
def subnetOption (subnet : Option (List UInt8)) : List UInt8 :=
  match subnet.bind parseIpv4 with
  | some addr => [0x00, 0x08] ++ ([0x00, 0x07] ++ ([0x00, 0x01] ++ ([24, 0] ++ addr.toList.take 3)))
  | none => []

/-- Whether the query gets an OPT record. -/
def DnsJsonQuery.wantsOpt (query : DnsJsonQuery) : Bool :=
  query.do_.getD false || query.ednsClientSubnet.isSome

/-- The OPT record. -/
def DnsJsonQuery.optRecord (query : DnsJsonQuery) : List UInt8 :=
  let flags : UInt16 := if query.do_.getD false then 0x8000 else 0
  let optData := subnetOption query.ednsClientSubnet
  0 :: (u16Bytes dnsTypeOpt ++ ([0x10, 0x00] ++ ([0, 0] ++ (u16Bytes flags ++
    (u16Bytes (UInt16.ofNat optData.length) ++ optData)))))

/-- The header, with the number of additional records. -/
def DnsJsonQuery.header (query : DnsJsonQuery) (id₀ id₁ : UInt8) (arcount : UInt16) : List UInt8 :=
  [id₀, id₁, 0x01, if query.cd.getD false then 0x10 else 0x00] ++
    (u16Bytes 1 ++ ([0, 0] ++ ([0, 0] ++ u16Bytes arcount)))

/-- The query for a request. -/
def buildDnsQuery (query : DnsJsonQuery) (id₀ id₁ : UInt8) : Outcome Error (List UInt8) :=
  let qtype := query.qtype.getD typeA
  let question := questionName query.name ++ 0 :: (u16Bytes qtype ++ u16Bytes classIn)
  if query.wantsOpt then .ok (query.header id₀ id₁ 1 ++ (question ++ query.optRecord))
  else .ok (query.header id₀ id₁ 0 ++ question)

/-! ### Reading it back -/

/-- The name can stand in a packet. -/
def Fits (name : List UInt8) : Prop :=
  (∀ label ∈ pieces name, label.length ≤ 63) ∧ 1 + octets (pieces name) ≤ 255

/-- A message asks what the request does: one question, of the name's pieces in order and the
type and class meant, and no record but an OPT record. -/
structure Asked (query : DnsJsonQuery) (m : Msg) : Prop where
  /-- The question. -/
  questions : m.questions = [⟨⟨pieces query.name⟩,
    RrType.fromU16 (query.qtype.getD typeA), classIn⟩]
  /-- No answers. -/
  answers : m.answers = []
  /-- No authorities. -/
  authorities : m.authorities = []
  /-- At most one additional record. -/
  count : m.additionals.length ≤ 1
  /-- It is an OPT record. -/
  opt : ∀ r ∈ m.additionals, r.rrType = .OPT

section

variable {query : DnsJsonQuery} {id₀ id₁ : UInt8} {packet : List UInt8} {m : Msg}

theorem length_header (arcount : UInt16) : (query.header id₀ id₁ arcount).length = 12 := rfl

theorem pieces_ne_nil {label : List UInt8} (h : label ∈ pieces query.name) : 0 < label.length := by
  simp only [pieces, List.mem_filter, Bool.not_eq_true', List.isEmpty_eq_false_iff] at h
  exact List.length_pos_iff.mpr h.2

/-- Before the additional section stands what was asked. -/
theorem buildDnsQuery_eq (query : DnsJsonQuery) (id₀ id₁ : UInt8) : buildDnsQuery query id₀ id₁ =
    .ok (query.header id₀ id₁ (if query.wantsOpt then 1 else 0) ++
      (labelBytes (pieces query.name) ++
      0 :: (u16Bytes (query.qtype.getD typeA) ++ (u16Bytes classIn ++
        if query.wantsOpt then query.optRecord else [])))) := by
  rw [buildDnsQuery]
  cases query.wantsOpt <;> simp [questionName, labelBytes]

theorem length_subnetOption (subnet : Option (List UInt8)) :
    (subnetOption subnet).length < 65536 := by
  unfold subnetOption
  split
  · simp
  · simp

/-- The OPT record is read as one. -/
theorem unpackRr_optRecord {off : ℕ} (hd : packet.drop off = query.optRecord) :
    ∃ r, unpackRr packet off = .ok (r, packet.length) ∧ r.rrType = .OPT := by
  have hname : Name.fromWire packet off = .ok (⟨[]⟩, off + 1) :=
    Name.fromWire_of_drop (by simp) (by simp) hd
  have hfields : packet.drop (off + 1) = u16Bytes dnsTypeOpt ++ (u16Bytes 0x1000 ++
      (u32Bytes (be32 0 (if query.do_.getD false then 0x8000 else 0)) ++
        (u16Bytes (UInt16.ofNat (subnetOption query.ednsClientSubnet).length) ++
          (subnetOption query.ednsClientSubnet ++ [])))) := by
    rw [drop_succ_of_drop hd, u32Bytes, hi16_be32, lo16_be32, List.append_nil, List.append_assoc]
    rfl
  have hlen := length_of_drop hfields (by simp [u16Bytes])
  simp only [List.length_append, length_u16Bytes, length_u32Bytes, List.length_nil] at hlen
  have hr := unpackRr_of_drop hname (length_subnetOption _) hfields
  rw [show off + 1 + 10 + (subnetOption query.ednsClientSubnet).length =
    packet.length by omega] at hr
  exact ⟨_, hr, rfl⟩

/-- **Where the name fits, the query asks what was asked.** -/
theorem unpack_buildDnsQuery (hfit : Fits query.name)
    (h : buildDnsQuery query id₀ id₁ = .ok packet) :
    ∃ m, Msg.unpack packet = .ok m ∧ Asked query m := by
  rw [buildDnsQuery_eq, Outcome.ok.injEq] at h
  subst h
  generalize hopt : (if query.wantsOpt then query.optRecord else []) = opt
  generalize hpacket : query.header id₀ id₁ (if query.wantsOpt then 1 else 0) ++
    (labelBytes (pieces query.name) ++
    0 :: (u16Bytes (query.qtype.getD typeA) ++ (u16Bytes classIn ++ opt))) = packet
  have hd₁₂ : packet.drop 12 = labelBytes (pieces query.name) ++
      0 :: (u16Bytes (query.qtype.getD typeA) ++ (u16Bytes classIn ++ opt)) := by
        rw [← hpacket]; rfl
  have hd₄ : packet.drop 4 = u16Bytes 1 ++ packet.drop 6 := by rw [← hpacket]; rfl
  have hd₆ : packet.drop 6 = u16Bytes 0 ++ packet.drop 8 := by rw [← hpacket]; rfl
  have hd₈ : packet.drop 8 = u16Bytes 0 ++ packet.drop 10 := by rw [← hpacket]; rfl
  have hd₁₀ : packet.drop 10 = u16Bytes (if query.wantsOpt then 1 else 0) ++ packet.drop 12 := by
    rw [← hpacket]; rfl
  -- the question
  have hname := Name.fromWire_of_drop (fun label hmem =>
    ⟨pieces_ne_nil hmem, by have := hfit.1 label hmem; omega⟩)
    hfit.2 hd₁₂
  have hd_name : packet.drop (12 + octets (pieces query.name)) =
      0 :: (u16Bytes (query.qtype.getD typeA) ++ (u16Bytes classIn ++ opt)) := by
    rw [← length_labelBytes]; exact drop_of_drop _ hd₁₂
  have hd_type := drop_succ_of_drop hd_name
  have hd_class := drop_of_drop _ hd_type
  have hd_opt := drop_of_drop _ hd_class
  have hlen := length_of_drop hd_name (by simp)
  simp only [List.length_cons, List.length_append, length_u16Bytes, Nat.add_assoc, Nat.reduceAdd]
    at hlen hd_type hd_class hd_opt hname
  have hquestions : Msg.unpackQuestions packet 1 12 =
      .ok ([⟨⟨pieces query.name⟩, RrType.fromU16 (query.qtype.getD typeA), classIn⟩],
        12 + (octets (pieces query.name) + 5)) := by
    simp only [Msg.unpackQuestions, hname, ok_bind, readU16_of_drop hd_type,
      Nat.add_assoc, Nat.reduceAdd,
      readU16_of_drop hd_class, pure_eq_ok,
      ensure_pos (show ¬ packet.length - (12 + (octets (pieces query.name) + 1)) < 4 by omega)]
  have hadditionals : ∃ additionals : List ResourceRecord, additionals.length ≤ 1 ∧
      (∀ r ∈ additionals, r.rrType = .OPT) ∧
      unpackRrSection packet (if query.wantsOpt then (1 : UInt16) else 0).toNat
        (12 + (octets (pieces query.name) + 5)) = .ok (additionals, packet.length) := by
    split at hopt
    · next hw =>
      rw [← hopt] at hd_opt
      obtain ⟨r, hr, htype⟩ := unpackRr_optRecord hd_opt
      refine ⟨[r], le_rfl, by simpa using htype, ?_⟩
      simp [hw, unpackRrSection, hr]
    · next hw =>
      refine ⟨[], by simp, by simp, ?_⟩
      rw [← hopt, List.length_nil] at hlen
      simp [hw, unpackRrSection, hlen]
  obtain ⟨additionals, hcount, htypes, hadditionals⟩ := hadditionals
  refine ⟨⟨MsgHeader.fromWire (be16At packet 0) (be16At packet 2), false, _,
    [], [], additionals⟩, ?_,
    ⟨rfl, rfl, rfl, hcount, htypes⟩⟩
  simp only [Msg.unpack, Upstream.dnsHeaderSize,
    ensure_pos (show ¬ packet.length < 12 by omega), ok_bind,
    readU16_pos (show 0 + 2 ≤ packet.length by omega),
      readU16_pos (show 2 + 2 ≤ packet.length by omega),
    readU16_of_drop hd₄, readU16_of_drop hd₆, readU16_of_drop hd₈,
      readU16_of_drop hd₁₀, UInt16.toNat_one,
    UInt16.toNat_zero, hquestions, unpackRrSection, pure_eq_ok, hadditionals, ensure_true]

/-- **Where the parser reads the name back, it fits.** -/
theorem fits_of_unpack (h : Msg.unpack packet = .ok m) (hasked : Asked query m) :
    Fits query.name := by
  have hq := hasked.questions
  simp only [Msg.unpack, bind_eq_ok, Prod.exists] at h
  obtain ⟨_, -, _, -, _, -, qdcount, -, _, -, _, -, _, -, questions, _, hquestions, _, _, -, _, _,
    -, _, _, -, _, -, h⟩ := h
  rw [pure_eq_ok, Outcome.ok.injEq] at h
  subst h
  cases hn : qdcount.toNat with
  | zero =>
    rw [hn, Msg.unpackQuestions, pure_eq_ok, Outcome.ok.injEq, Prod.mk.injEq] at hquestions
    rw [← hquestions.1] at hq
    simp at hq
  | succ n =>
    rw [hn] at hquestions
    obtain ⟨name, next, rest, hname, -, -, -, rfl⟩ := Msg.unpackQuestions_succ hquestions
    simp only [List.cons.injEq, Upstream.Question.mk.injEq] at hq
    obtain ⟨⟨rfl, -, -⟩, -⟩ := hq
    obtain ⟨k, -, hlen, hwire⟩ := Name.fromWire_eq_ok_iff.mp hname
    exact ⟨fun label hmem => Nat.lt_succ_iff.mp (hwire.labels_fit label hmem).2, hlen⟩

end

/-- **When the query asks what was asked**: exactly when the name can stand in a packet. -/
theorem buildDnsQuery_asked_iff (query : DnsJsonQuery) (id₀ id₁ : UInt8) :
    (∃ packet m, buildDnsQuery query id₀ id₁ = .ok packet ∧ Msg.unpack packet = .ok m ∧
      Asked query m) ↔
      Fits query.name := by
  constructor
  · rintro ⟨packet, m, -, hm, hasked⟩
    exact fits_of_unpack hm hasked
  · intro hfit
    have hbuild := buildDnsQuery_eq query id₀ id₁
    obtain ⟨m, hm, hasked⟩ := unpack_buildDnsQuery hfit hbuild
    exact ⟨_, m, hbuild, hm, hasked⟩

/-- **A label of 64 bytes is no label**: its length byte is read as the start of something else. -/
theorem long_label_refused :
    ∃ query packet, buildDnsQuery query 0 0 = .ok packet ∧ ¬ ∃ m, Msg.unpack packet = .ok m ∧
      Asked query m := by
  have hrefused : Msg.unpack (DnsJsonQuery.header ⟨[], none, none, none, none⟩ 0 0 0 ++
      (questionName (List.replicate 64 0x61) ++ 0 :: (u16Bytes typeA ++ u16Bytes classIn))) =
        .err .invalidLabelLength := by decide +kernel
  refine ⟨⟨List.replicate 64 0x61, none, none, none, none⟩, _, rfl, ?_⟩
  rintro ⟨m, hm, -⟩
  exact absurd (hrefused.symm.trans hm) (by simp)

end DohProxy.Json
