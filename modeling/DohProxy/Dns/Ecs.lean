import DohProxy.Dns.Edns
import DohProxy.Net.IpAddr

/-!
# The client subnet option

`edns_ecs.rs`: the proxy tells the upstream resolver which network a client is in, by an
option of the query's OPT record that holds the leading octets of the client's address.

## The model

`ecsTarget` is what `add_ecs_to_packet` reads before it writes: it walks to the additional
section, looks there for the OPT record by a search of its own (`findOptRecord`, which
does not go through `traverseRrs`), and then for a client subnet option in its RDATA.
`insertEcs` is what it writes. The loop over the options moves forward by four bytes at
least, so the record's length is fuel enough.

## What is proved

* `addEcsToPacket_eq` — **what becomes of a packet**: where the search ends with an OPT
  record that has no such option, the option goes after its RDATA; elsewhere the packet
  stays as it is.
* `addEcs_eq_iff` — **what reaches the upstream of an address** is the octets the prefix
  reaches into, so more than the prefix whenever it ends inside of one.
-/

namespace DohProxy.Dns

open Lib Outcome Net

/-- The client subnet option's code. -/
def ednsClientSubnet : UInt16 := 8

/-- The address family of IPv4. -/
def familyIpv4 : UInt16 := 1

/-- The address family of IPv6. -/
def familyIpv6 : UInt16 := 2

/-- The number of octets a prefix reaches into. -/
def bytesToSend (prefixLen : UInt8) : ℕ := (prefixLen.toNat + 7) / 8

/-- The data of a client subnet option: the family, the length of the prefix, the length
of the scope, and the address's leading octets. -/
def buildEcsOption (clientIp : IpAddr) (prefixV4 prefixV6 : UInt8) : List UInt8 :=
  match clientIp with
  | .v4 addr => u16Bytes familyIpv4 ++ ([prefixV4, 0] ++
    addr.toList.take (min (bytesToSend prefixV4) 4))
  | .v6 addr => u16Bytes familyIpv6 ++ ([prefixV6, 0] ++
    addr.toList.take (min (bytesToSend prefixV6) 16))

/-- The offset and the value of the RDLENGTH of the OPT record at `offset`, if there is one.
The type and the length are read without a check that the packet reaches so far. -/
def rootOpt (packet : Packet) (offset : ℕ) : Outcome Error (Option (ℕ × ℕ)) := do
  if packet[offset]? = some 0 then
    let rtype ← readU16 packet (offset + 1)
    if rtype = dnsTypeOpt then
      let rdlengthOffset := offset + 9
      let rdlength ← readU16 packet rdlengthOffset
      return some (rdlengthOffset, rdlength.toNat)
    else return none
  else return none

/-- The search for the OPT record among the records at `offset`. -/
def findOptRecord (packet : Packet) : ℕ → ℕ → Outcome Error (Option (ℕ × ℕ))
  | 0, _ => return none
  | arcount + 1, offset => do
    match ← rootOpt packet offset with
    | some optRecordInfo => return some optRecordInfo
    | none =>
      let offset ← skipName packet offset
      ensure (offset + 10 ≤ packet.length) "Incomplete RR"
      let rdlen ← readU16 packet (offset + 8)
      findOptRecord packet arcount (offset + (10 + rdlen.toNat))

/-- Whether the RDATA at `rdataStart` has a client subnet option. -/
def hasEcs (packet : Packet) (rdataStart rdlength : ℕ) : ℕ → ℕ → Outcome Error Bool
  | 0, _ => .timeout
  | fuel + 1, rdataOffset =>
    if rdataOffset < rdlength then
      if rdataStart + rdataOffset + 4 > packet.length then return false
      else do
        let optCode ← readU16 packet (rdataStart + rdataOffset)
        let optLen ← readU16 packet (rdataStart + rdataOffset + 2)
        if rdataStart + rdataOffset + 4 + optLen.toNat > packet.length then return false
        else if optCode = ednsClientSubnet then return true
        else hasEcs packet rdataStart rdlength fuel (rdataOffset + (4 + optLen.toNat))
    else return false

/-- Where the additional section starts, and the number of its records. -/
def ecsAdditional (packet : Packet) : Outcome Error (ℕ × UInt16) := do
  ensure (packet.length ≥ 12) "DNS packet too short"
  ensure (packet.length ≤ 4096) "Packet too large"
  ensure ((← qdcount packet) = 1) "No question"
  let offset ← skipName packet 12
  ensure ((← usub packet.length offset) ≥ 4) "Short packet"
  let ancount ← ancount packet
  let nscount ← readU16 packet 8
  let arcount ← arcount packet
  ensure (arcount > 0) "No EDNS OPT record found"
  let (offset, _) ← traverseRrs packet (fun _ _ => .ok ()) (ancount.toNat + nscount.toNat)
    (offset + 4) ()
  return (offset, arcount)

/-- The offset and the value of the RDLENGTH of the OPT record that an option is to be added
to, or nothing if it has one. -/
def ecsTarget (packet : Packet) : Outcome Error (Option (ℕ × ℕ)) := do
  let (offset, arcount) ← ecsAdditional packet
  match ← findOptRecord packet arcount.toNat offset with
  | none => .err "No EDNS OPT record found"
  | some (rdlengthOffset, rdlength) =>
    if ← hasEcs packet (rdlengthOffset + 2) rdlength (rdlength + 1) 0 then return none
    else return some (rdlengthOffset, rdlength)

/-- The option with its code and its length. -/
def ecsOption (clientIp : IpAddr) (prefixV4 prefixV6 : UInt8) : List UInt8 :=
  u16Bytes ednsClientSubnet ++ (u16Bytes
    (UInt16.ofNat (buildEcsOption clientIp prefixV4 prefixV6).length) ++
    buildEcsOption clientIp prefixV4 prefixV6)

/-- Lengthen RDLENGTH, and put the option at the end of the RDATA. -/
def insertEcs (option : List UInt8) (rdlengthOffset rdlength : ℕ) : Proc Packet Error Unit := do
  Proc.modifies fun packet => writeU16 packet rdlengthOffset
    (UInt16.ofNat (rdlength + option.length))
  let oldRdataEnd := rdlengthOffset + 2 + rdlength
  Proc.modifies fun packet => .ok (packet.take oldRdataEnd ++ (option ++ packet.drop oldRdataEnd))

/-- Tell the upstream the client's network, unless the client has told one itself. -/
def addEcsToPacket (clientIp : IpAddr) (prefixV4 prefixV6 : UInt8) : Proc Packet Error Unit := do
  match ← Proc.reads ecsTarget with
  | none => return ()
  | some (rdlengthOffset, rdlength) =>
    insertEcs (ecsOption clientIp prefixV4 prefixV6) rdlengthOffset rdlength

/-! ### What is read is inside the packet -/

/-- The record's length lies inside the packet. -/
theorem rootOpt_eq_some {packet : Packet} {offset : ℕ} {info : ℕ × ℕ}
    (h : rootOpt packet offset = .ok (some info)) : info.1 + 2 ≤ packet.length := by
  unfold rootOpt at h
  split at h
  · simp only [bind_eq_ok] at h
    obtain ⟨rtype, -, h⟩ := h
    split at h
    · simp only [bind_eq_ok, readU16_eq_ok, pure_eq_ok, Outcome.ok.injEq, Option.some.injEq] at h
      obtain ⟨rdlength, ⟨hle, -⟩, rfl⟩ := h
      exact hle
    · simp at h
  · simp at h

theorem findOptRecord_eq_some {packet : Packet} {info : ℕ × ℕ} : ∀ {n offset : ℕ},
    findOptRecord packet n offset = .ok (some info) → info.1 + 2 ≤ packet.length := by
  intro n
  induction n with
  | zero => intro offset h; simp [findOptRecord] at h
  | succ n ih =>
    intro offset h
    simp only [findOptRecord, bind_eq_ok] at h
    obtain ⟨opt, hopt, h⟩ := h
    cases opt with
    | some info' =>
      simp only [pure_eq_ok, Outcome.ok.injEq, Option.some.injEq] at h
      subst h
      exact rootOpt_eq_some hopt
    | none =>
      simp only [bind_eq_ok] at h
      obtain ⟨_, -, _, -, _, -, h⟩ := h
      exact ih h

theorem ecsTarget_eq_some {packet : Packet} {rdlengthOffset rdlength : ℕ}
    (h : ecsTarget packet = .ok (some (rdlengthOffset, rdlength))) : rdlengthOffset + 2 ≤
      packet.length := by
  simp only [ecsTarget, bind_eq_ok, Prod.exists] at h
  obtain ⟨offset, arcount, -, opt, hopt, h⟩ := h
  cases opt with
  | none => simp at h
  | some info =>
    simp only [bind_eq_ok] at h
    obtain ⟨has, -, h⟩ := h
    cases has with
    | true => simp at h
    | false =>
      simp only [Bool.false_eq_true, if_false, pure_eq_ok, Outcome.ok.injEq, Option.some.injEq,
        Prod.mk.injEq] at h
      obtain ⟨rfl, rfl⟩ := h
      exact findOptRecord_eq_some hopt

/-! ### What is written -/

/-- The packet with the option in the record. -/
def withEcs (packet : Packet) (option : List UInt8) (rdlengthOffset rdlength : ℕ) : Packet :=
  (setU16 packet rdlengthOffset (UInt16.ofNat (rdlength + option.length))).take
    (rdlengthOffset + 2 + rdlength) ++
    (option ++ packet.drop (rdlengthOffset + 2 + rdlength))

theorem insertEcs_eq {packet : Packet} {rdlengthOffset : ℕ} (h : rdlengthOffset + 2 ≤ packet.length)
    (option : List UInt8) (rdlength : ℕ) :
    insertEcs option rdlengthOffset rdlength packet = (.ok (),
      withEcs packet option rdlengthOffset rdlength) := by
  rw [insertEcs, Proc.modifies_bind_eq_ok]
  refine ⟨_, writeU16_pos h _, Proc.modifies_eq_ok.mpr ?_⟩
  rw [withEcs, drop_setU16 _ _ (by omega)]

/-- **What becomes of a packet.** -/
theorem addEcsToPacket_eq (clientIp : IpAddr) (prefixV4 prefixV6 : UInt8) (packet : Packet) :
    addEcsToPacket clientIp prefixV4 prefixV6 packet =
      match ecsTarget packet with
      | .ok (some (rdlengthOffset, rdlength)) =>
        (.ok (), withEcs packet (ecsOption clientIp prefixV4 prefixV6) rdlengthOffset rdlength)
      | .ok none => (.ok (), packet)
      | .err e => (.err e, packet)
      | .panic => (.panic, packet)
      | .timeout => (.timeout, packet) := by
  simp only [addEcsToPacket, Proc.bind_apply, Proc.reads_apply]
  cases ht : ecsTarget packet with
  | ok target =>
    cases target with
    | none => rfl
    | some info => exact insertEcs_eq (ecsTarget_eq_some ht) _ _
  | err => rfl
  | panic => rfl
  | timeout => rfl

/-! ### What is told of an address -/

/-- The prefix length that counts for a family. -/
def prefixFor (isIpv4 : Bool) (prefixV4 prefixV6 : UInt8) : UInt8 :=
  if isIpv4 then prefixV4 else prefixV6

/-- The packet gets an option: it is well formed up to its OPT record, and that has none yet. -/
def TakesEcs (packet : Packet) : Prop := ∃ info, ecsTarget packet = .ok (some info)

section

variable {isIpv4 : Bool} {prefixV4 prefixV6 : UInt8} {ip₁ ip₂ : IpAddr}

theorem buildEcsOption_eq (ip : IpAddr) (prefixV4 prefixV6 : UInt8) :
    buildEcsOption ip prefixV4 prefixV6 = u16Bytes (if ip.isIpv4 then familyIpv4 else familyIpv6) ++
      ([prefixFor ip.isIpv4 prefixV4 prefixV6, 0] ++
        ip.octets.take (bytesToSend (prefixFor ip.isIpv4 prefixV4 prefixV6))) := by
  cases ip with
  | v4 addr => simp [buildEcsOption, IpAddr.isIpv4, IpAddr.octets, prefixFor, List.take_eq_take_iff]
  | v6 addr => simp [buildEcsOption, IpAddr.isIpv4, IpAddr.octets, prefixFor, List.take_eq_take_iff]

theorem length_buildEcsOption (h₁ : ip₁.isIpv4 = isIpv4) (h₂ : ip₂.isIpv4 = isIpv4) :
    (buildEcsOption ip₁ prefixV4 prefixV6).length =
      (buildEcsOption ip₂ prefixV4 prefixV6).length := by
  simp only [buildEcsOption_eq, h₁, h₂, List.length_append, List.length_take, IpAddr.length_octets]

/-- An option is no longer than what a whole IPv6 address takes. -/
theorem length_buildEcsOption_le (ip : IpAddr) (prefixV4 prefixV6 : UInt8) :
    (buildEcsOption ip prefixV4 prefixV6).length ≤ 20 := by
  have hle := List.length_take_le' (bytesToSend (prefixFor ip.isIpv4 prefixV4 prefixV6)) ip.octets
  have hw : IpAddr.width ip.isIpv4 ≤ 16 := by cases ip.isIpv4 <;> decide
  rw [ip.length_octets] at hle
  rw [buildEcsOption_eq, List.length_append, List.length_append, length_u16Bytes, List.length_cons,
    List.length_singleton]
  omega

/-- The option tells the address's bits up to the end of the octet the prefix ends in. -/
theorem ecsOption_eq_iff (h₁ : ip₁.isIpv4 = isIpv4) (h₂ : ip₂.isIpv4 = isIpv4) :
    ecsOption ip₁ prefixV4 prefixV6 = ecsOption ip₂ prefixV4 prefixV6 ↔
      AgreeUpTo (8 * bytesToSend (prefixFor isIpv4 prefixV4 prefixV6)) ip₁.octets ip₂.octets := by
  have hlen : ip₁.octets.length = ip₂.octets.length := by
    rw [ip₁.length_octets, ip₂.length_octets, h₁, h₂]
  rw [← take_eq_iff_agreeUpTo hlen, ecsOption, ecsOption, length_buildEcsOption h₁ h₂]
  simp only [buildEcsOption_eq, h₁, h₂, List.append_cancel_left_eq]

theorem withEcs_inj {packet : Packet} {option₁ option₂ : List UInt8} {rdlengthOffset rdlength : ℕ}
    (hlen : option₁.length = option₂.length) :
    withEcs packet option₁ rdlengthOffset rdlength =
      withEcs packet option₂ rdlengthOffset rdlength ↔
      option₁ = option₂ := by
  rw [withEcs, withEcs, hlen, List.append_cancel_left_eq, List.append_cancel_right_eq]

/-- The results for two addresses are the same where no option is added or the options are the same. -/
theorem addEcs_eq_iff (h₁ : ip₁.isIpv4 = isIpv4) (h₂ : ip₂.isIpv4 = isIpv4) (packet : Packet) :
    (addEcsToPacket ip₁ prefixV4 prefixV6 packet).2 =
      (addEcsToPacket ip₂ prefixV4 prefixV6 packet).2 ↔
      ¬ TakesEcs packet ∨
        AgreeUpTo (8 * bytesToSend (prefixFor isIpv4 prefixV4 prefixV6)) ip₁.octets ip₂.octets := by
  have hlen : (ecsOption ip₁ prefixV4 prefixV6).length =
    (ecsOption ip₂ prefixV4 prefixV6).length := by
    simp only [ecsOption, List.length_append, length_buildEcsOption h₁ h₂, length_u16Bytes]
  rw [addEcsToPacket_eq, addEcsToPacket_eq, ← ecsOption_eq_iff h₁ h₂, TakesEcs]
  cases ecsTarget packet with
  | ok target =>
    cases target with
    | none => simp
    | some info => simp [withEcs_inj hlen]
  | err => simp
  | panic => simp
  | timeout => simp

/-- There are two addresses that differ just in the last bit of an octet. -/
theorem exists_differ (isIpv4 : Bool) {k : ℕ} (hk : k < IpAddr.width isIpv4) :
    ∃ ip₁ ip₂ : IpAddr, ip₁.isIpv4 = isIpv4 ∧ ip₂.isIpv4 = isIpv4 ∧
      AgreeUpTo (8 * k + 7) ip₁.octets ip₂.octets ∧
        bitAt ip₁.octets (8 * k + 7) ≠ bitAt ip₂.octets (8 * k + 7) := by
  obtain ⟨ip₁, hf₁, ho₁⟩ := IpAddr.exists_octets isIpv4
    (List.length_replicate (n := IpAddr.width isIpv4) (a := 0))
  have hlen : ((List.replicate (IpAddr.width isIpv4) (0 : UInt8)).set k 1).length =
    IpAddr.width isIpv4 := by simp
  obtain ⟨ip₂, hf₂, ho₂⟩ := IpAddr.exists_octets isIpv4 hlen
  refine ⟨ip₁, ip₂, hf₁, hf₂, fun i hi => ?_, ?_⟩
  · rw [ho₁, ho₂, bitAt, bitAt]
    by_cases hik : i / 8 = k
    · rw [hik, List.getD_eq_getElem _ _ (by simpa using hk),
        List.getD_eq_getElem _ _ (by simpa using hk),
        List.getElem_replicate, List.getElem_set_self]
      have : 7 - i % 8 = (6 - i % 8) + 1 := by omega
      rw [this]
      simp [Nat.testBit_add_one]
    · simp only [List.getD_eq_getElem?_getD, List.getElem?_set_ne (Ne.symm hik)]
  · rw [ho₁, ho₂, bitAt, bitAt, show (8 * k + 7) / 8 = k by omega,
      show 7 - (8 * k + 7) % 8 = 0 by omega,
      List.getD_eq_getElem _ _ (by simpa using hk), List.getD_eq_getElem _ _ (by simpa using hk),
      List.getElem_replicate, List.getElem_set_self]
    decide

/-- **When the bits beyond the prefix stay here.** For all packets and all two addresses that
agree on the prefix the results are the same exactly when the prefix ends with an octet or
covers the address. Case by case they are the same exactly when the packet takes no option,
or the addresses also agree on what remains of the octet in which the prefix ends. -/
theorem ecs_hides_iff (isIpv4 : Bool) (prefixV4 prefixV6 : UInt8) :
    ((∀ (packet : Packet) (ip₁ ip₂ : IpAddr), ip₁.isIpv4 = isIpv4 → ip₂.isIpv4 = isIpv4 →
        AgreeUpTo (prefixFor isIpv4 prefixV4 prefixV6).toNat ip₁.octets ip₂.octets →
        (addEcsToPacket ip₁ prefixV4 prefixV6 packet).2 =
          (addEcsToPacket ip₂ prefixV4 prefixV6 packet).2) ↔
      8 ∣ (prefixFor isIpv4 prefixV4 prefixV6).toNat ∨
        8 * IpAddr.width isIpv4 ≤ (prefixFor isIpv4 prefixV4 prefixV6).toNat) ∧
    ∀ (packet : Packet) (ip₁ ip₂ : IpAddr), ip₁.isIpv4 = isIpv4 → ip₂.isIpv4 = isIpv4 →
      AgreeUpTo (prefixFor isIpv4 prefixV4 prefixV6).toNat ip₁.octets ip₂.octets →
      ((addEcsToPacket ip₁ prefixV4 prefixV6 packet).2 =
        (addEcsToPacket ip₂ prefixV4 prefixV6 packet).2 ↔
        ¬ TakesEcs packet ∨ ∀ i, (prefixFor isIpv4 prefixV4 prefixV6).toNat ≤ i →
          i < 8 * bytesToSend (prefixFor isIpv4 prefixV4 prefixV6) →
            bitAt ip₁.octets i = bitAt ip₂.octets i) := by
  generalize hp : (prefixFor isIpv4 prefixV4 prefixV6).toNat = p
  have hk : bytesToSend (prefixFor isIpv4 prefixV4 prefixV6) = (p + 7) / 8 := by
    rw [bytesToSend, hp]
  refine ⟨⟨fun h => ?_, fun h packet ip₁ ip₂ h₁ h₂ hagree => ?_⟩,
    fun packet ip₁ ip₂ h₁ h₂ hagree => ?_⟩
  · by_contra hcon
    rw [not_or, not_le, Nat.dvd_iff_mod_eq_zero] at hcon
    obtain ⟨ip₁, ip₂, h₁, h₂, hagree, hne⟩ :=
      exists_differ isIpv4 (show p / 8 < IpAddr.width isIpv4 by omega)
    rcases (addEcs_eq_iff h₁ h₂ _).mp (h
      (rootQuery [optRecord 4096] (by decide)).bytes ip₁ ip₂ h₁ h₂
      (hagree.mono (by omega))) with hno | hsame
    · exact hno ⟨_, rfl⟩
    · exact hne (hsame _ (by rw [hk]; omega))
  · rw [addEcs_eq_iff h₁ h₂]
    right
    intro i hi
    rw [hk] at hi
    by_cases hip : i < p
    · exact hagree i hip
    · -- the prefix covers the address: there is no such bit
      have hlen : IpAddr.width isIpv4 ≤ i / 8 := by omega
      rw [bitAt, bitAt, List.getD_eq_default _ _ (by rw [ip₁.length_octets, h₁]; exact hlen),
        List.getD_eq_default _ _ (by rw [ip₂.length_octets, h₂]; exact hlen)]
  · rw [addEcs_eq_iff h₁ h₂, hk]
    refine or_congr Iff.rfl ⟨fun h i _ hi => h i hi, fun h i hi => ?_⟩
    by_cases hip : i < p
    · exact hagree i hip
    · exact h i (by omega) hi

/-- **Bits beyond the prefix can leave**: with a prefix of 20 bits, the upstream is told four
bits more, in which these addresses differ. -/
theorem ecs_shows_more :
    ∃ (packet : Packet) (ip₁ ip₂ : IpAddr), ip₁.isIpv4 = true ∧ ip₂.isIpv4 = true ∧
      AgreeUpTo (20 : UInt8).toNat ip₁.octets ip₂.octets ∧
      (addEcsToPacket ip₁ 20 56 packet).2 ≠ (addEcsToPacket ip₂ 20 56 packet).2 :=
  ⟨(rootQuery [optRecord 4096] (by decide)).bytes, .v4 #v[192, 168, 1, 7],
    .v4 #v[192, 168, 2, 7], rfl, rfl,
    by decide +kernel, by decide +kernel⟩

end

end DohProxy.Dns
