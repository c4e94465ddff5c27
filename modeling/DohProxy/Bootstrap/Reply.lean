import DohProxy.Dns.Packet
import DohProxy.Errors
import DohProxy.Net.IpAddr

/-!
# Asking a bootstrap resolver

The name of an upstream server is looked up with plain DNS at the bootstrap resolvers. This is
the query that goes out and the reading of what comes back, as in `lib.rs`.

## What is proved

`parseBootstrapDnsResponse_eq` — a reply is read record by record, and comes to the addresses
of the records that answer the question, with the smallest of their TTLs. A reply with no such
record comes to no address, with the greatest TTL there is.
-/

namespace DohProxy.Bootstrap

open Lib Outcome Net Dns

/-- `BOOTSTRAP_DNS_FLAG_QR`. -/
abbrev bootstrapDnsFlagQr : UInt16 := 0x8000

/-- `BOOTSTRAP_DNS_CLASS_IN`. -/
abbrev bootstrapDnsClassIn : UInt16 := 1

/-- `BOOTSTRAP_DNS_TYPE_A`. -/
abbrev bootstrapDnsTypeA : UInt16 := 1

/-- `BOOTSTRAP_DNS_TYPE_AAAA`. -/
abbrev bootstrapDnsTypeAaaa : UInt16 := 28

/-- `host.trim_end_matches('.')`. -/
def trimEndDots (host : List Char) : List Char := (host.reverse.dropWhile (· = '.')).reverse

/-- The labels of a question name, each with its length before it. -/
def writeLabels : List (List Char) → Outcome DoHError (List UInt8)
  | [] => return []
  | label :: labels => do
    let labelBytes := label.flatMap String.utf8EncodeChar
    ensure (¬ (labelBytes = [] ∨ labelBytes.length > 63 ∨ 0 ∈ labelBytes)) DoHError.upstreamIssue
    let rest ← writeLabels labels
    return UInt8.ofNat labelBytes.length :: (labelBytes ++ rest)

/-- The query for a host. The id is random. -/
def buildBootstrapDnsQuery (queryId : UInt16) (host : List Char) (qtype : UInt16) :
    Outcome DoHError Packet := do
  let host := trimEndDots host
  ensure (host ≠ []) DoHError.upstreamIssue
  let name ← writeLabels (host.splitOn '.')
  return u16Bytes queryId ++ u16Bytes 0x0100 ++ u16Bytes 1 ++ List.replicate 6 0 ++ name ++ [0] ++
    u16Bytes qtype ++ u16Bytes bootstrapDnsClassIn

/-- A lower case letter for an upper case one. -/
def toAsciiLowercase (b : UInt8) : UInt8 := if 0x41 ≤ b ∧ b ≤ 0x5a then b + 0x20 else b

/-- The loop of `parse_dns_name_lower`. -/
def parseDnsNameLowerLoop (packet : Packet) : ℕ → (cursor nextOffset : ℕ) → (jumped : Bool) →
    (jumpCount : ℕ) →
    (firstLabel : Bool) → (name : List UInt8) → Outcome DoHError (List UInt8 × ℕ)
  | 0, _, _, _, _, _, _ => .timeout
  | fuel + 1, cursor, nextOffset, jumped, jumpCount, firstLabel, name => do
    ensure (cursor < packet.length) DoHError.upstreamIssue
    let len ← index packet cursor
    if len &&& 0xc0 = 0xc0 then
      ensure (2 ≤ packet.length - cursor) DoHError.upstreamIssue
      let ptr := (len &&& 0x3f).toNat * 256 + (← index packet (cursor + 1)).toNat
      ensure (ptr < packet.length) DoHError.upstreamIssue
      let nextOffset := if jumped then nextOffset else cursor + 2
      let jumpCount := jumpCount + 1
      ensure (jumpCount ≤ packet.length) DoHError.upstreamIssue
      parseDnsNameLowerLoop packet fuel ptr nextOffset true jumpCount firstLabel name
    else if len &&& 0xc0 = 0x00 then
      let cursor := cursor + 1
      if len = 0 then
        return (name ++ [0x2e], if jumped then nextOffset else cursor)
      else
        let labelLen := len.toNat
        ensure (¬ (labelLen > 63 ∨ packet.length - cursor < labelLen)) DoHError.upstreamIssue
        let name := if firstLabel then name else name ++ [0x2e]
        let name := name ++ (← slice packet cursor (cursor + labelLen)).map toAsciiLowercase
        parseDnsNameLowerLoop packet fuel (cursor + labelLen) nextOffset jumped jumpCount false name
    else .err DoHError.upstreamIssue

/-- The name at an offset in lower case, with its pointers followed, and the offset after it. -/
def parseDnsNameLower (packet : Packet) (startOffset : ℕ) : Outcome DoHError (List UInt8 × ℕ) := do
  ensure (startOffset < packet.length) DoHError.upstreamIssue
  parseDnsNameLowerLoop packet ((packet.length + 1) * (packet.length + 1)) startOffset startOffset
    false 0 true []

/-- What a reply comes to. -/
structure BootstrapDnsResult where
  /-- The addresses. -/
  addrs : List IpAddr
  /-- The smallest TTL. -/
  minTtlSecs : UInt32
  deriving DecidableEq

/-- The loop over the further questions. -/
def skipQuestions (packet : Packet) : ℕ → ℕ → Outcome DoHError ℕ
  | 0, offset => return offset
  | n + 1, offset => do
    let offset ← (skipName packet offset).mapErr fun _ => DoHError.upstreamIssue
    ensure (4 ≤ packet.length - offset) DoHError.upstreamIssue
    skipQuestions packet n (offset + 4)

/-- The loop over the answer records. -/
def parseAnswers (packet : Packet) (questionName : List UInt8) (qtype : UInt16) :
    ℕ → (offset : ℕ) → (addrs : List IpAddr) → (minTtlSecs : UInt32) →
      Outcome DoHError BootstrapDnsResult
  | 0, _, addrs, minTtlSecs => return ⟨addrs, minTtlSecs⟩
  | n + 1, offset, addrs, minTtlSecs => do
    let (ownerName, offset) ← parseDnsNameLower packet offset
    ensure (10 ≤ packet.length - offset) DoHError.upstreamIssue
    let rrType ← readU16 packet offset
    let rrClass ← readU16 packet (offset + 2)
    let rrTtl ← readU32 packet (offset + 4)
    let rdlen := (← readU16 packet (offset + 8)).toNat
    let rdataOffset := offset + 10
    ensure (rdlen ≤ packet.length - rdataOffset) DoHError.upstreamIssue
    let (addrs, minTtlSecs) ←
      if ownerName = questionName ∧ rrClass = bootstrapDnsClassIn ∧ rrType = qtype then
        if rrType = bootstrapDnsTypeA ∧ rdlen = 4 then do
          let octets ← slice packet rdataOffset (rdataOffset + 4)
          pure (addrs ++ [.v4 (Vector.ofFn fun i => octets.getD i 0)], min minTtlSecs rrTtl)
        else if rrType = bootstrapDnsTypeAaaa ∧ rdlen = 16 then do
          let octets ← slice packet rdataOffset (rdataOffset + 16)
          pure (addrs ++ [.v6 (Vector.ofFn fun i => octets.getD i 0)], min minTtlSecs rrTtl)
        else pure (addrs, minTtlSecs)
      else pure (addrs, minTtlSecs)
    parseAnswers packet questionName qtype n (rdataOffset + rdlen) addrs minTtlSecs

/-- The reading of a reply. -/
def parseBootstrapDnsResponse (packet : Packet) (queryId qtype : UInt16) :
    Outcome DoHError BootstrapDnsResult := do
  ensure (12 ≤ packet.length) DoHError.upstreamIssue
  ensure ((← readU16 packet 0) = queryId) DoHError.upstreamIssue
  ensure ((← readU16 packet 2) &&& bootstrapDnsFlagQr ≠ 0) DoHError.upstreamIssue
  let qdcount := (← readU16 packet 4).toNat
  let ancount := (← readU16 packet 6).toNat
  ensure (qdcount ≠ 0) DoHError.upstreamIssue
  let (questionName, offset) ← parseDnsNameLower packet 12
  ensure (4 ≤ packet.length - offset) DoHError.upstreamIssue
  let offset ← skipQuestions packet (qdcount - 1) (offset + 4)
  parseAnswers packet questionName qtype ancount offset [] 0xffffffff

/-! ### What a reply holds -/

/-- A record of the answer section. -/
structure Answer where
  /-- Its owner name, in lower case. -/
  owner : List UInt8
  /-- Its type. -/
  rrType : UInt16
  /-- Its class. -/
  rrClass : UInt16
  /-- Its TTL in seconds. -/
  ttl : UInt32
  /-- Its data. -/
  rdata : List UInt8
  deriving DecidableEq

/-- A reply, as far as it is read. -/
structure Reply where
  /-- The name of the first question, in lower case. -/
  question : List UInt8
  /-- The answer records. -/
  answers : List Answer
  deriving DecidableEq

/-- The address that a record gives in answer to a question. -/
def Answer.address (question : List UInt8) (qtype : UInt16) (r : Answer) : Option IpAddr :=
  if r.owner = question ∧ r.rrClass = bootstrapDnsClassIn ∧ r.rrType = qtype then
    if r.rrType = bootstrapDnsTypeA ∧ r.rdata.length = 4 then some (.v4 (Vector.ofFn fun i =>
      r.rdata.getD i 0))
    else if r.rrType = bootstrapDnsTypeAaaa ∧ r.rdata.length = 16 then
      some (.v6 (Vector.ofFn fun i => r.rdata.getD i 0))
    else none
  else none

/-- The records that answer the question with an address. -/
def Reply.addressRecords (m : Reply) (qtype : UInt16) : List Answer :=
  m.answers.filter fun r => (r.address m.question qtype).isSome

/-- Their addresses, and the smallest of their TTLs. -/
def Reply.result (m : Reply) (qtype : UInt16) : BootstrapDnsResult :=
  ⟨(m.addressRecords qtype).filterMap (Answer.address m.question qtype),
    ((m.addressRecords qtype).map Answer.ttl).foldl min 0xffffffff⟩

/-- The record at an offset, and the offset after it. -/
def readAnswer (packet : Packet) (offset : ℕ) : Outcome DoHError (Answer × ℕ) := do
  let (owner, offset) ← parseDnsNameLower packet offset
  let rdlen := (be16At packet (offset + 8)).toNat
  ensure (10 ≤ packet.length - offset) DoHError.upstreamIssue
  ensure (rdlen ≤ packet.length - (offset + 10)) DoHError.upstreamIssue
  return (⟨owner, be16At packet offset, be16At packet (offset + 2), be32At packet (offset + 4),
    (packet.drop (offset + 10)).take rdlen⟩, offset + 10 + rdlen)

/-- The records at an offset. -/
def readAnswers (packet : Packet) : ℕ → ℕ → Outcome DoHError (List Answer)
  | 0, _ => return []
  | n + 1, offset => do
    let (r, offset) ← readAnswer packet offset
    return r :: (← readAnswers packet n offset)

/-- What a packet holds as a reply. -/
def readReply (packet : Packet) : Outcome DoHError Reply := do
  ensure ((be16At packet 4).toNat ≠ 0) DoHError.upstreamIssue
  let (question, offset) ← parseDnsNameLower packet 12
  ensure (4 ≤ packet.length - offset) DoHError.upstreamIssue
  let offset ← skipQuestions packet ((be16At packet 4).toNat - 1) (offset + 4)
  return ⟨question, ← readAnswers packet (be16At packet 6).toNat offset⟩

/-! ### Reading record by record -/

variable {packet : Packet} {question : List UInt8} {qtype : UInt16}

/-- What a record adds to the addresses and to the smallest TTL. -/
def Answer.add (question : List UInt8) (qtype : UInt16) (r : Answer) (res : BootstrapDnsResult) :
    BootstrapDnsResult :=
  match r.address question qtype with
  | some addr => ⟨res.addrs ++ [addr], min res.minTtlSecs r.ttl⟩
  | none => res

theorem length_rdata {e : ℕ} (h : (be16At packet (e + 8)).toNat ≤ packet.length - (e + 10)) :
    ((packet.drop (e + 10)).take (be16At packet (e + 8)).toNat).length =
      (be16At packet (e + 8)).toNat := by
  rw [List.length_take, List.length_drop, Nat.min_eq_left h]

/-- One turn of the loop over the answer records. -/
theorem parseAnswers_succ (n offset : ℕ) (res : BootstrapDnsResult) :
    parseAnswers packet question qtype (n + 1) offset res.addrs res.minTtlSecs =
      readAnswer packet offset >>= fun (r, next) =>
        parseAnswers packet question qtype n next (r.add question qtype res).addrs
          (r.add question qtype res).minTtlSecs := by
  rw [parseAnswers, readAnswer]
  cases hname : parseDnsNameLower packet offset with
  | ok v =>
    obtain ⟨owner, e⟩ := v
    simp only [ok_bind, pure_eq_ok]
    by_cases hten : 10 ≤ packet.length - e
    · rw [ensure_pos hten, readU16_pos (by omega), readU16_pos (by omega), readU32_pos (by omega),
        readU16_pos (by omega)]
      simp only [ok_bind]
      by_cases hrd : (be16At packet (e + 8)).toNat ≤ packet.length - (e + 10)
      · rw [ensure_pos hrd]
        have hlen := length_rdata hrd
        have hslice : ∀ {k}, (be16At packet (e + 8)).toNat = k →
          slice packet (e + 10) (e + 10 + k) =
            (.ok ((packet.drop (e + 10)).take (be16At packet (e + 8)).toNat) : Outcome DoHError
              (List UInt8)) := by
          rintro _ rfl
          rw [slice_pos ⟨Nat.le_add_right _ _, by omega⟩, List.drop_take, Nat.add_sub_cancel_left]
        simp only [ok_bind, Answer.add, Answer.address, hlen]
        -- does the record answer the question, and with what kind of address?
        by_cases hq : owner = question ∧ be16At packet (e + 2) = bootstrapDnsClassIn ∧
          be16At packet e = qtype
        · simp only [if_pos hq]
          by_cases h4 : be16At packet e = bootstrapDnsTypeA ∧ (be16At packet (e + 8)).toNat = 4
          · simp only [if_pos h4, hslice h4.2, ok_bind]
          · by_cases h16 : be16At packet e = bootstrapDnsTypeAaaa ∧
              (be16At packet (e + 8)).toNat = 16
            · simp only [if_neg h4, if_pos h16, hslice h16.2, ok_bind]
            · simp only [if_neg h4, if_neg h16]
        · simp only [if_neg hq]
      · simp only [ensure_neg hrd, err_bind]
    · simp only [ensure_neg hten, err_bind]
  | err => rfl
  | panic => rfl
  | timeout => rfl

/-- The loop reads the records, and adds what they give. -/
theorem parseAnswers_eq : ∀ (n offset : ℕ) (res : BootstrapDnsResult),
    parseAnswers packet question qtype n offset res.addrs res.minTtlSecs =
      readAnswers packet n offset >>= fun rs =>
        .ok (rs.foldl (fun res r => r.add question qtype res) res) := by
  intro n
  induction n with
  | zero => exact fun _ _ => rfl
  | succ n ih =>
    intro offset res
    rw [parseAnswers_succ, readAnswers]
    cases readAnswer packet offset with
    | ok v =>
      obtain ⟨r, next⟩ := v
      simp only [ok_bind]
      rw [ih]
      cases readAnswers packet n next <;> rfl
    | err => rfl
    | panic => rfl
    | timeout => rfl

/-- Adding what all records give. -/
theorem foldl_add_eq (rs : List Answer) : ∀ res : BootstrapDnsResult,
    rs.foldl (fun res r => r.add question qtype res) res =
      ⟨res.addrs ++ (Reply.result ⟨question, rs⟩ qtype).addrs,
        ((Reply.addressRecords ⟨question, rs⟩ qtype).map Answer.ttl).foldl min res.minTtlSecs⟩ := by
  induction rs with
  | nil => simp [Reply.result, Reply.addressRecords]
  | cons r rs ih =>
    intro res
    rw [List.foldl_cons, ih, Answer.add]
    cases h : r.address question qtype with
    | none => simp [Reply.result, Reply.addressRecords, h]
    | some addr => simp [Reply.result, Reply.addressRecords, h]

/-- The loop as it is started. -/
theorem parseAnswers_start (n offset : ℕ) : parseAnswers packet question qtype n offset
    [] 0xffffffff =
    readAnswers packet n offset >>= fun rs => .ok (Reply.result ⟨question, rs⟩ qtype) := by
  have h : parseAnswers packet question qtype n offset [] 0xffffffff = _ :=
    parseAnswers_eq n offset ⟨[], 0xffffffff⟩
  simp only [foldl_add_eq, List.nil_append] at h
  exact h

/-- **A reply is read record by record.** -/
theorem parseBootstrapDnsResponse_eq (packet : Packet) (queryId qtype : UInt16) :
    parseBootstrapDnsResponse packet queryId qtype = do
      ensure (12 ≤ packet.length) DoHError.upstreamIssue
      ensure (be16At packet 0 = queryId) DoHError.upstreamIssue
      ensure (be16At packet 2 &&& bootstrapDnsFlagQr ≠ 0) DoHError.upstreamIssue
      let m ← readReply packet
      return m.result qtype := by
  unfold parseBootstrapDnsResponse readReply
  by_cases hlen : 12 ≤ packet.length
  · rw [ensure_pos hlen, readU16_pos (by omega), readU16_pos (by omega), readU16_pos (by omega),
      readU16_pos (by omega)]
    simp only [ok_bind, Outcome.bind_assoc, pure_eq_ok, parseAnswers_start]
  · rw [ensure_neg hlen, err_bind, err_bind]

/-! ### No reply keeps the proxy from going on -/

/-- The loop ends: a label is passed, or one of the pointers that are allowed is followed. Where it
returns to is fixed by the first pointer. -/
theorem parseDnsNameLowerLoop_safe : ∀ {fuel cursor nextOffset : ℕ} {jumped : Bool} {jumpCount : ℕ}
    {firstLabel : Bool} {name : List UInt8}, jumpCount ≤ packet.length →
    (packet.length - jumpCount) * (packet.length + 1) + (packet.length - cursor) < fuel →
    Safe (fun r => (jumped = true → r.2 = nextOffset) ∧
      (jumped = false → cursor < r.2 ∧ r.2 ≤ packet.length))
      (parseDnsNameLowerLoop packet fuel cursor nextOffset jumped jumpCount firstLabel name) := by
  intro fuel
  induction fuel with
  | zero => exact fun _ h => absurd h (Nat.not_lt_zero _)
  | succ fuel ih =>
    intro cursor nextOffset jumped jumpCount firstLabel name hcount hfuel
    rw [parseDnsNameLowerLoop]
    refine safe_ensure.bind fun _ _ hcursor => ?_
    rw [index_pos hcursor, ok_bind]
    split
    · refine safe_ensure.bind fun _ _ htwo => ?_
      rw [index_pos (show cursor + 1 < packet.length by omega), ok_bind]
      refine safe_ensure.bind fun _ _ hptr => safe_ensure.bind fun _ _ hjump =>
        (ih hjump ?_).mono ?_
      · obtain ⟨left, hleft⟩ : ∃ left, packet.length - jumpCount = left + 1 :=
          Nat.exists_eq_add_one.mpr (Nat.sub_pos_of_lt hjump)
        rw [hleft, Nat.succ_mul] at hfuel
        rw [← Nat.sub_sub, hleft, Nat.add_sub_cancel]
        omega
      · rintro r ⟨hnext, -⟩
        have hnext := hnext rfl
        constructor
        · intro hj
          rwa [if_pos hj] at hnext
        · rintro rfl
          rw [if_neg Bool.false_ne_true] at hnext
          omega
    · split
      · dsimp only
        split
        · constructor
          · exact fun hj => if_pos hj
          · rintro rfl
            exact ⟨Nat.lt_succ_self _, hcursor⟩
        · refine safe_ensure.bind fun _ _ hlabel => ?_
          rw [slice_pos ⟨Nat.le_add_right _ _, by omega⟩, ok_bind]
          refine (ih hcount (by omega)).mono fun r hr => ⟨hr.1, fun hj => ?_⟩
          have := hr.2 hj
          omega
      · trivial

theorem parseDnsNameLower_safe (packet : Packet) (startOffset : ℕ) :
    Safe (fun r => startOffset < r.2 ∧ r.2 ≤ packet.length)
      (parseDnsNameLower packet startOffset) := by
  refine safe_ensure.bind fun _ _ hstart =>
    (parseDnsNameLowerLoop_safe (Nat.zero_le _) ?_).mono fun r hr => hr.2 rfl
  rw [Nat.sub_zero, Nat.succ_mul]
  omega

theorem skipQuestions_safe (hp : packet ≠ []) : ∀ {n offset : ℕ},
    Safe (fun _ => True) (skipQuestions packet n offset) := by
  intro n
  induction n with
  | zero => exact fun {_} => trivial
  | succ n ih =>
    intro offset
    rw [skipQuestions]
    have h := skipName_safe hp offset
    cases hs : skipName packet offset with
    | ok next => exact safe_ensure.bind fun _ _ _ => ih
    | err => trivial
    | panic => rw [hs] at h; exact h.elim
    | timeout => rw [hs] at h; exact h.elim

theorem readAnswers_safe : ∀ {n offset : ℕ}, Safe (fun _ => True)
    (readAnswers packet n offset) := by
  intro n
  induction n with
  | zero => exact fun {_} => trivial
  | succ n ih =>
    intro offset
    refine Safe.bind (P := fun _ => True) ?_ fun r _ _ => Safe.bind ih fun _ _ _ => trivial
    refine (parseDnsNameLower_safe packet offset).bind fun _ _ _ => ?_
    exact safe_ensure.bind fun _ _ _ => safe_ensure.bind fun _ _ _ => trivial

/-- **Reading a reply ends**, without a panic, whatever the reply is. -/
theorem parseBootstrapDnsResponse_finished (packet : Packet) (queryId qtype : UInt16) :
    (parseBootstrapDnsResponse packet queryId qtype).Finished := by
  rw [parseBootstrapDnsResponse_eq, readReply]
  refine Safe.finished (Q := fun _ => True) (safe_ensure.bind fun _ _ hlen =>
    safe_ensure.bind fun _ _ _ =>
    safe_ensure.bind fun _ _ _ => Safe.bind (P := fun _ => True) ?_ fun _ _ _ => trivial)
  refine safe_ensure.bind fun _ _ _ => (parseDnsNameLower_safe packet 12).bind fun _ _ _ =>
    safe_ensure.bind fun _ _ _ => Safe.bind (skipQuestions_safe ?_) fun _ _ _ =>
      Safe.bind readAnswers_safe fun _ _ _ => trivial
  rintro rfl
  exact absurd hlen (by simp)

end DohProxy.Bootstrap
