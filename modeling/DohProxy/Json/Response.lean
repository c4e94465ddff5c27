import DohProxy.Dns.Packet
import DohProxy.Json.Query
import DohProxy.Lib.Fuel
import DohProxy.Lib.Orbit
import DohProxy.Lib.Utf8

/-!
# From a reply to JSON

`parse_dns_to_json` of `dns_json.rs` turns a reply into the answer of the JSON interface. It
has a name reader of its own, `parseName`, which follows compression pointers as long as
they go, also for the names in the data of CNAME, NS, PTR, MX and SRV records.

## The model

The loop of `parseName` takes fuel, which is handed down from `parseDnsToJson`: whether the
program ends is whether some amount of fuel ends the model. All other loops are bounded
by what they go over. Base64 encoding is a parameter.
-/

namespace DohProxy.Json

open Lib Outcome Net Dns Upstream

/-- The type of name server records. -/
def typeNs : UInt16 := 2

/-- The type of alias records. -/
def typeCname : UInt16 := 5

/-- The type of start of authority records. -/
def typeSoa : UInt16 := 6

/-- The type of pointer records. -/
def typePtr : UInt16 := 12

/-- The type of mail exchange records. -/
def typeMx : UInt16 := 15

/-- The type of text records. -/
def typeTxt : UInt16 := 16

/-- The type of IPv6 addresses. -/
def typeAaaa : UInt16 := 28

/-- The type of service records. -/
def typeSrv : UInt16 := 33

/-- The type of certification authority records. -/
def typeCaa : UInt16 := 257

/-- A question of the answer. -/
structure DnsQuestion where
  /-- The name asked about. -/
  name : String
  /-- The type asked for. -/
  qtype : UInt16
  deriving DecidableEq

/-- A record of the answer. -/
structure DnsAnswer where
  /-- The owner name. -/
  name : String
  /-- The type. -/
  rtype : UInt16
  /-- The time to live. -/
  ttl : UInt32
  /-- The data as text. -/
  data : String
  deriving DecidableEq

/-- The answer of the JSON interface. -/
structure DnsJsonResponse where
  /-- The response code. -/
  status : UInt16
  /-- Whether the reply was cut to fit. -/
  tc : Bool
  /-- Whether recursion was asked for. -/
  rd : Bool
  /-- Whether recursion is offered. -/
  ra : Bool
  /-- Whether the data is authenticated. -/
  ad : Bool
  /-- Whether checking is disabled. -/
  cd : Bool
  /-- The questions. -/
  question : Option (List DnsQuestion)
  /-- The answer section. -/
  answer : Option (List DnsAnswer)
  /-- The authority section. -/
  authority : Option (List DnsAnswer)
  /-- The additional section. -/
  additional : Option (List DnsAnswer)
  /-- A comment. -/
  comment : Option String
  deriving DecidableEq

/-- The loop of `parse_name`. -/
def parseNameLoop (packet : List UInt8) : ℕ → ℕ → String → Option ℕ → Outcome Error (String × ℕ)
  | 0, _, _, _ => .timeout
  | fuel + 1, offset, name, jumpOffset => do
    ensure (offset < packet.length) "Name extends beyond packet"
    let len ← index packet offset
    if len &&& 0xc0 = 0xc0 then
      ensure (offset + 1 < packet.length) "Incomplete compression pointer"
      let low ← index packet (offset + 1)
      -- only the first jump is remembered
      parseNameLoop packet fuel (pointerTarget len low) name (jumpOffset.or (some (offset + 2)))
    else
      let offset := offset + 1
      if len = 0 then return (name, jumpOffset.getD offset)
      else
        let name := if name.isEmpty then name else name ++ "."
        ensure (offset + len.toNat ≤ packet.length) "Label extends beyond packet"
        let label ← slice packet offset (offset + len.toNat)
        parseNameLoop packet fuel (offset + len.toNat) (name ++ fromUtf8Lossy label) jumpOffset

/-- The name at `offset`, with dots between its labels, and the offset after its own bytes. -/
def parseName (fuel : ℕ) (packet : List UInt8) (offset : ℕ) : Outcome Error (String × ℕ) :=
  parseNameLoop packet fuel offset "" none

/-- A 16-bit integer in hexadecimal. -/
def hex (v : UInt16) : String := String.ofList (Nat.toDigits 16 v.toNat)

/-- The loop over the strings of a text record, up to `stop`. -/
def txtLoop (packet : List UInt8) (stop : ℕ) : ℕ → ℕ → String → Outcome Error String
  | 0, _, _ => .timeout
  | fuel + 1, txtOffset, txtData =>
    if txtOffset < stop then do
      let txtLen ← index packet txtOffset
      let txtOffset := txtOffset + 1
      if txtOffset + txtLen.toNat ≤ stop then
        let txtData := if txtData.isEmpty then txtData else txtData ++ " "
        let piece ← slice packet txtOffset (txtOffset + txtLen.toNat)
        txtLoop packet stop fuel (txtOffset + txtLen.toNat) (txtData ++ fromUtf8Lossy piece)
      else return txtData
    else return txtData

section

variable (base64 : List UInt8 → String)

/-- The text of a certification authority record. -/
def caaText (packet : List UInt8) (offset rdlength : ℕ) : Outcome Error String := do
  if rdlength ≥ 2 then
    let flags ← index packet offset
    let tagLen ← index packet (offset + 1)
    if offset + 2 + tagLen.toNat ≤ offset + rdlength then
      let tag ← slice packet (offset + 2) (offset + 2 + tagLen.toNat)
      let value ← slice packet (offset + 2 + tagLen.toNat) (offset + rdlength)
      return toString flags.toNat ++ " " ++ fromUtf8Lossy tag ++ " \"" ++
        fromUtf8Lossy value ++ "\""
    else return base64 (← slice packet offset (offset + rdlength))
  else return base64 (← slice packet offset (offset + rdlength))

/-- The text of a record's data. -/
def rdataText (fuel : ℕ) (packet : List UInt8) (rtype : UInt16) (offset rdlength : ℕ) :
    Outcome Error String := do
  if rtype = typeA ∧ rdlength = 4 then
    let a ← index packet offset
    let b ← index packet (offset + 1)
    let c ← index packet (offset + 2)
    let d ← index packet (offset + 3)
    return ".".intercalate ([a, b, c, d].map fun octet => toString octet.toNat)
  else if rtype = typeAaaa ∧ rdlength = 16 then
    let addr ← slice packet offset (offset + 16)
    return ":".intercalate ((List.range 8).map fun i => hex (be16At addr (2 * i)))
  else if rtype = typeCname ∨ rtype = typeNs ∨ rtype = typePtr then
    let (domain, _) ← parseName fuel packet offset
    return domain
  else if rtype = typeMx ∧ rdlength ≥ 2 then
    let preference ← readU16 packet offset
    let (exchange, _) ← parseName fuel packet (offset + 2)
    return toString preference.toNat ++ " " ++ exchange
  else if rtype = typeTxt then
    txtLoop packet (offset + rdlength) (rdlength + 1) offset ""
  else if rtype = typeSoa then
    return "<SOA record, " ++ toString rdlength ++ " bytes>"
  else if rtype = typeSrv ∧ rdlength ≥ 6 then
    let priority ← readU16 packet offset
    let weight ← readU16 packet (offset + 2)
    let port ← readU16 packet (offset + 4)
    let (target, _) ← parseName fuel packet (offset + 6)
    return toString priority.toNat ++ " " ++ toString weight.toNat ++ " " ++
      toString port.toNat ++ " " ++ target
  else if rtype = typeCaa then caaText base64 packet offset rdlength
  else return base64 (← slice packet offset (offset + rdlength))

/-- The record at `offset`, if it is one to report, and the offset after it. -/
def parseRr (fuel : ℕ) (packet : List UInt8) (offset : ℕ) :
    Outcome Error (Option DnsAnswer × ℕ) := do
  let (name, offset) ← parseName fuel packet offset
  ensure (offset + 10 ≤ packet.length) "Incomplete resource record"
  let rtype ← readU16 packet offset
  let rclass ← readU16 packet (offset + 2)
  let ttl ← readU32 packet (offset + 4)
  let rdlength ← readU16 packet (offset + 8)
  let offset := offset + 10
  ensure (offset + rdlength.toNat ≤ packet.length) "Resource data extends beyond packet"
  -- records of other classes and OPT records are left out
  if rclass ≠ classIn ∨ rtype = dnsTypeOpt then return (none, offset + rdlength.toNat)
  else
    let data ← rdataText base64 fuel packet rtype offset rdlength.toNat
    return (some ⟨name, rtype, ttl, data⟩, offset + rdlength.toNat)

/-- The records to report of a section, and the offset after it. -/
def parseRrs (fuel : ℕ) (packet : List UInt8) : ℕ → ℕ → Outcome Error (List DnsAnswer × ℕ)
  | 0, offset => return ([], offset)
  | count + 1, offset => do
    let (record, offset) ← parseRr base64 fuel packet offset
    let (records, offset) ← parseRrs fuel packet count offset
    return (record.toList ++ records, offset)

/-- The questions, and the offset after them. -/
def parseQuestions (fuel : ℕ) (packet : List UInt8) : ℕ → ℕ → Outcome Error (List DnsQuestion × ℕ)
  | 0, offset => return ([], offset)
  | qdcount + 1, offset => do
    let (name, offset) ← parseName fuel packet offset
    ensure (offset + 4 ≤ packet.length) "Incomplete question"
    let qtype ← readU16 packet offset
    let (questions, offset) ← parseQuestions fuel packet qdcount (offset + 4)
    return (⟨name, qtype⟩ :: questions, offset)

/-- A section of the answer: absent when there is nothing to report. -/
def nonEmpty (records : List DnsAnswer) : Option (List DnsAnswer) :=
  if records.isEmpty then none else some records

/-- The JSON answer for a reply. -/
def parseDnsToJson (fuel : ℕ) (packet : List UInt8) : Outcome Error DnsJsonResponse := do
  ensure (packet.length ≥ 12) "DNS packet too short"
  let flags ← readU16 packet 2
  let qdcount ← qdcount packet
  let ancount ← ancount packet
  let nscount ← readU16 packet 8
  let arcount ← arcount packet
  let status ← rcode packet
  let (questions, offset) ← parseQuestions fuel packet qdcount.toNat 12
  let (answers, offset) ← parseRrs base64 fuel packet ancount.toNat offset
  let (authority, offset) ← parseRrs base64 fuel packet nscount.toNat offset
  let (additional, _) ← parseRrs base64 fuel packet arcount.toNat offset
  return {
    status := status.toUInt16
    tc := flags &&& 0x0200 != 0
    rd := flags &&& 0x0100 != 0
    ra := flags &&& 0x0080 != 0
    ad := flags &&& 0x0020 != 0
    cd := flags &&& 0x0010 != 0
    question := if qdcount > 0 then some questions else none
    answer := nonEmpty answers
    authority := nonEmpty authority
    additional := nonEmpty additional
    comment := none }

end

end DohProxy.Json
