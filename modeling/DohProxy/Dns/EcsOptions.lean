import DohProxy.Dns.PayloadSize

/-!
# The client subnet option in a whole query

`add_ecs_to_packet` on a query that segments to its end and has one OPT record, of the root, whose
RDATA is a sequence of options.

## The model

`EdnsOption` is an option with its code and its data; its length fits a 16-bit field by
construction. `optionsBytes` is RDATA made of options.

## What is proved

* `findOptRecord_eq_some_iff` — where the search for the OPT record ends.
* `hasEcs_options` — the look for an option tells whether one of the options has its code.
* `addEcsToPacket_message` — a query that has the option stays as it is, any other gets it after
  the others, and a second call changes nothing.
-/

namespace DohProxy.Dns

open Lib Outcome Net

/-- An option of an OPT record. -/
structure EdnsOption where
  /-- Its code. -/
  code : UInt16
  /-- Its data. -/
  data : List UInt8
  /-- The data's length fits in the option's length field. -/
  fits : data.length < 65536

/-- The option as it stands in a packet. -/
def EdnsOption.bytes (o : EdnsOption) : List UInt8 :=
  u16Bytes o.code ++ (u16Bytes (UInt16.ofNat o.data.length) ++ o.data)

/-- Options one after the other. -/
def optionsBytes (os : List EdnsOption) : List UInt8 := os.flatMap EdnsOption.bytes

@[simp] theorem optionsBytes_nil : optionsBytes [] = [] := rfl

@[simp] theorem optionsBytes_cons (o : EdnsOption) (os : List EdnsOption) :
    optionsBytes (o :: os) = o.bytes ++ optionsBytes os := List.flatMap_cons

theorem optionsBytes_concat (os : List EdnsOption) (o : EdnsOption) :
    optionsBytes (os ++ [o]) = optionsBytes os ++ o.bytes := by
  rw [optionsBytes, List.flatMap_append, List.flatMap_singleton, ← optionsBytes]

theorem EdnsOption.length_bytes (o : EdnsOption) : o.bytes.length = 4 + o.data.length := by
  simp only [EdnsOption.bytes, List.length_append, length_u16Bytes]
  omega

section

variable {packet : Packet} {rest : List UInt8}

/-! ### The search -/

/-- What the search looks at, where it finds something. -/
theorem rootOpt_eq_some_iff {off : ℕ} {info : ℕ × ℕ} : rootOpt packet off = .ok (some info) ↔
    packet[off]? = some 0 ∧ be16At packet (off + 1) = dnsTypeOpt ∧ off + 11 ≤ packet.length ∧
      info = (off + 9, (be16At packet (off + 9)).toNat) := by
  constructor
  · intro h
    unfold rootOpt at h
    split at h
    · next hz =>
      simp only [bind_eq_ok, readU16_eq_ok] at h
      obtain ⟨_, ⟨-, rfl⟩, h⟩ := h
      split at h
      · next ht =>
        simp only [bind_eq_ok, readU16_eq_ok, pure_eq_ok, Outcome.ok.injEq, Option.some.injEq] at h
        obtain ⟨_, ⟨hle, rfl⟩, rfl⟩ := h
        exact ⟨hz, ht, hle, rfl⟩
      · cases h
    · cases h
  · rintro ⟨hz, ht, hle, rfl⟩
    rw [rootOpt, if_pos hz, readU16_pos (by omega), ok_bind, if_pos ht]
    simp only [readU16_pos (show off + 9 + 2 ≤ packet.length by omega), ok_bind, pure_eq_ok]

/-- Where another record stands it finds nothing. -/
theorem rootOpt_other {r : Record} {off : ℕ} (hr : ¬ r.IsRootOpt)
    (hd : packet.drop off = r.bytes ++ rest) : rootOpt packet off = .ok none := by
  obtain ⟨hs, -, htype, hle⟩ := skipName_record hd
  rw [r.length_bytes] at hle
  obtain ⟨info, hinfo, hnone⟩ := rootOpt_of_skipName hs (by omega)
  rw [hinfo, hnone.mpr]
  rintro ⟨hone, hopt⟩
  exact hr ⟨r.name.valid.eq_root_iff.1.mpr (by omega), htype.symm.trans hopt⟩

/-- **Where the search ends**: after whole records that are not OPT records of the root. -/
theorem findOptRecord_eq_some_iff {info : ℕ × ℕ} : ∀ {n off : ℕ},
    findOptRecord packet n off = .ok (some info) ↔ ∃ before s, RecordsAt packet before off s ∧
      before.length < n ∧ (∀ r ∈ before, ¬ r.IsRootOpt) ∧ rootOpt packet s = .ok (some info) := by
  intro n
  induction n with
  | zero => intro off; simp [findOptRecord]
  | succ n ih =>
    intro off
    constructor
    · intro h
      simp only [findOptRecord, bind_eq_ok] at h
      obtain ⟨found, hfound, h⟩ := h
      cases found with
      | some info' =>
        cases h
        exact ⟨[], off, recordsAt_nil.mpr rfl, Nat.succ_pos n, by simp, hfound⟩
      | none =>
        simp only [bind_eq_ok, ensure_eq_ok, readU16_eq_ok] at h
        obtain ⟨e, he, _, hten, _, ⟨-, rfl⟩, h⟩ := h
        obtain ⟨before, s, hrs, hn, hno, hs⟩ := ih.mp h
        have hnext := hrs.2
        have hlt := (rootOpt_eq_some_iff.mp hs).2.2.1
        obtain ⟨r, hd, hr, hname, htype⟩ := exists_record he
          (show e + 10 + (be16At packet (e + 8)).toNat ≤ packet.length by omega)
        have hother : ¬ r.IsRootOpt := by
          rintro ⟨hroot, hopt⟩
          obtain ⟨info', hinfo, hnone⟩ := rootOpt_of_skipName he hten
          rw [hfound, Outcome.ok.injEq] at hinfo
          rw [hroot, List.length_singleton] at hname
          exact hnone.mp hinfo.symm ⟨hname, htype.trans hopt⟩
        refine ⟨r :: before, s, ⟨?_, ?_⟩, Nat.succ_lt_succ hn,
          List.forall_mem_cons.mpr ⟨hother, hno⟩, hs⟩
        · rw [hd, recordsBytes_cons, List.append_assoc, ← hrs.1, Nat.add_assoc]
        · rw [recordsBytes_cons, List.length_append]
          omega
    · rintro ⟨before, s, hrs, hn, hno, hs⟩
      cases before with
      | nil =>
        obtain rfl := recordsAt_nil.mp hrs
        rw [findOptRecord, hs]
        rfl
      | cons r rs =>
        rw [List.forall_mem_cons] at hno
        obtain ⟨e, he, hle, -, hrest⟩ := recordsAt_cons hrs
        have hd := hrs.1
        rw [recordsBytes_cons, List.append_assoc] at hd
        simp only [findOptRecord, rootOpt_other hno.1 hd, ok_bind, he,
          ensure_pos (show e + 10 ≤ packet.length by omega),
          readU16_pos (show e + 8 + 2 ≤ packet.length by omega)]
        exact ih.mpr ⟨rs, s, hrest, Nat.lt_of_succ_lt_succ hn, hno.2, hs⟩

/-- **The search goes over other records** up to the OPT record. -/
theorem findOptRecord_split {opt : Record} (hroot : opt.IsRootOpt) {before : List Record}
    {n off : ℕ} (hno : ∀ r ∈ before, r.rtype ≠ dnsTypeOpt) (hn : before.length < n)
    (hd : packet.drop off = recordsBytes before ++ (opt.bytes ++ rest)) :
    findOptRecord packet n off =
      .ok (some (off + (recordsBytes before).length + 9, opt.rdata.length)) := by
  have hopt := drop_of_drop _ hd
  obtain ⟨-, hrd, htype, hle⟩ := skipName_record hopt
  rw [opt.length_bytes, hroot.1, List.length_singleton] at hle
  rw [hroot.1, List.length_singleton] at hrd htype
  have hzero : packet[off + (recordsBytes before).length]? = some 0 := by
    rw [← Nat.add_zero (off + _), ← List.getElem?_drop, hopt, Record.bytes, hroot.1]
    rfl
  refine findOptRecord_eq_some_iff.mpr ⟨before, _, ⟨by rw [hd, hopt], rfl⟩, hn,
    fun r hr h => hno r hr h.2, rootOpt_eq_some_iff.mpr ⟨hzero, htype.trans hroot.2, by omega, ?_⟩⟩
  rw [← hrd]

/-! ### The look for an option -/

/-- **The look for an option** in a sequence of options. -/
theorem hasEcs_options {start : ℕ} : ∀ {os : List EdnsOption} {fuel off : ℕ},
    packet.drop (start + off) = optionsBytes os ++ rest → (optionsBytes os).length < fuel →
      hasEcs packet start (off + (optionsBytes os).length) fuel off =
        .ok (os.any fun o => o.code = ednsClientSubnet) := by
  intro os
  induction os with
  | nil =>
    intro fuel off _ hf
    obtain ⟨fuel, rfl⟩ := Nat.exists_eq_succ_of_ne_zero (Nat.pos_iff_ne_zero.mp hf)
    rw [hasEcs, if_neg (by simp)]
    rfl
  | cons o os ih =>
    intro fuel off hd hf
    rw [optionsBytes_cons, List.append_assoc] at hd
    have hlen := length_of_drop hd (by simp [EdnsOption.bytes, u16Bytes])
    have hb := hd
    rw [EdnsOption.bytes, List.append_assoc, List.append_assoc] at hb
    have hcode : (readU16 packet (start + off) : Outcome Error UInt16) = .ok o.code :=
      readU16_of_drop hb
    have hdata : (readU16 packet (start + off + 2) : Outcome Error UInt16) =
        .ok (UInt16.ofNat o.data.length) := readU16_of_drop (drop_of_drop _ hb)
    rw [List.length_append, o.length_bytes] at hlen
    rw [optionsBytes_cons, List.length_append, o.length_bytes] at hf ⊢
    obtain ⟨fuel, rfl⟩ := Nat.exists_eq_succ_of_ne_zero (Nat.pos_iff_ne_zero.mp
      (Nat.zero_lt_of_lt hf))
    rw [hasEcs, if_pos (by omega), if_neg (by omega), hcode, ok_bind, hdata, ok_bind,
      toNat_ofNat_count o.fits, if_neg (by omega)]
    split
    · next h => rw [List.any_cons, decide_eq_true h, Bool.true_or, pure_eq_ok]
    · next h =>
      have hnext := drop_of_drop _ hd
      rw [o.length_bytes, Nat.add_assoc] at hnext
      rw [List.any_cons, decide_eq_false h, Bool.false_or, ← Nat.add_assoc off,
        ih hnext (by omega)]

/-! ### A query with one OPT record -/

/-- The client subnet option for an address. -/
def ecsOptionOf (clientIp : IpAddr) (prefixV4 prefixV6 : UInt8) : EdnsOption where
  code := ednsClientSubnet
  data := buildEcsOption clientIp prefixV4 prefixV6
  fits := by
    have := length_buildEcsOption_le clientIp prefixV4 prefixV6
    omega

theorem ecsOptionOf_bytes (clientIp : IpAddr) (prefixV4 prefixV6 : UInt8) :
    (ecsOptionOf clientIp prefixV4 prefixV6).bytes = ecsOption clientIp prefixV4 prefixV6 := rfl

variable {m : Message} {before after : List Record} {opt : Record} {os : List EdnsOption}

/-- **What is to be done** with a query: its OPT record is found, and it is known whether it has
the option. -/
theorem ecsTarget_message (hlen : m.bytes.length ≤ 4096) (h : m.additionals = before ++ opt :: after)
    (hroot : opt.IsRootOpt) (hno : ∀ r ∈ before, r.rtype ≠ dnsTypeOpt)
    (hos : opt.rdata = optionsBytes os) :
    ecsTarget m.bytes = .ok (if os.any fun o => o.code = ednsClientSubnet then none
      else some ((m.upTo before opt).length, opt.rdata.length)) := by
  obtain ⟨hmax, hqd, hat⟩ := additionalOffset_eq_ok_iff.mp (additionalOffset_bytes m hlen)
  have hpos : 0 < be16At m.bytes 10 := by
    rw [UInt16.lt_iff_toNat_lt, m.be16At_ten, toNat_ofNat_count m.counts.2.2, h, List.length_append,
      List.length_cons]
    exact Nat.succ_pos _
  have hsec := ecsAdditional_eq_ok_iff.mpr ⟨hmax, hqd, hat, rfl, hpos⟩
  have hd := m.drop_additionalStart
  rw [h, recordsBytes_append, recordsBytes_cons] at hd
  have hcount : before.length < (be16At m.bytes 10).toNat := by
    rw [m.be16At_ten, toNat_ofNat_count m.counts.2.2, h, List.length_append, List.length_cons]
    omega
  have hfind := findOptRecord_split hroot hno hcount hd
  have hname : opt.name.bytes.length = 1 := by rw [hroot.1]; rfl
  have hend : (m.upTo before opt).length =
      m.additionalStart + (recordsBytes before).length + 9 := by
    rw [m.length_upTo, hname]
  -- the options stand after RDLENGTH
  have hb : m.bytes.drop ((m.upTo before opt).length + 2 + 0) =
      optionsBytes os ++ recordsBytes after := by
    have hdrop := drop_of_drop (u16Bytes (UInt16.ofNat opt.rdata.length))
      (show m.bytes.drop (m.upTo before opt).length = _ by
        rw [Message.bytes_around h, List.drop_left])
    rwa [hos] at hdrop
  have hhas := hasEcs_options hb (Nat.lt_succ_self (optionsBytes os).length)
  rw [zero_add, ← hos] at hhas
  rw [ecsTarget, hsec, ok_bind]
  simp only [hfind, ok_bind, ← hend, hhas]
  split <;> rfl

/-- The record with the option after the others. -/
theorem fits_ecsOption (hlen : m.bytes.length ≤ 4096) (h : m.additionals = before ++ opt :: after)
    (clientIp : IpAddr) (prefixV4 prefixV6 : UInt8) :
    (opt.rdata ++ ecsOption clientIp prefixV4 prefixV6).length < 65536 := by
  have hb := congrArg List.length (Message.bytes_around h)
  have hdata := length_buildEcsOption_le clientIp prefixV4 prefixV6
  rw [← ecsOptionOf_bytes, List.length_append, EdnsOption.length_bytes, ecsOptionOf]
  simp only [List.length_append, length_u16Bytes] at hb ⊢
  omega

/-- The option goes to the end of the RDATA. -/
theorem withEcs_of_eq {pre rdata rest : List UInt8} {w : UInt16} {o rdlength : ℕ}
    (h : packet = pre ++ (u16Bytes w ++ (rdata ++ rest))) (ho : o = pre.length)
    (hrd : rdlength = rdata.length) (option : List UInt8) :
    withEcs packet option o rdlength =
      pre ++ (u16Bytes (UInt16.ofNat (rdata.length + option.length)) ++
        (rdata ++ (option ++ rest))) := by
  subst h ho hrd
  rw [withEcs, setU16_append rfl]
  have htake : (pre ++ (u16Bytes (UInt16.ofNat (rdata.length + option.length)) ++
      (rdata ++ rest))).take (pre.length + 2 + rdata.length) =
      pre ++ (u16Bytes (UInt16.ofNat (rdata.length + option.length)) ++ rdata) := by
    rw [← List.append_assoc (u16Bytes _), ← List.append_assoc pre]
    exact List.take_left' (by simp only [List.length_append, length_u16Bytes]; omega)
  have hdrop : (pre ++ (u16Bytes w ++ (rdata ++ rest))).drop (pre.length + 2 + rdata.length) =
      rest := by
    rw [← List.append_assoc (u16Bytes _), ← List.append_assoc pre]
    exact List.drop_left' (by simp only [List.length_append, length_u16Bytes]; omega)
  rw [htake, hdrop, List.append_assoc, List.append_assoc]

theorem withEcs_message (h : m.additionals = before ++ opt :: after) (option : List UInt8)
    (hfit : (opt.rdata ++ option).length < 65536) :
    withEcs m.bytes option (m.upTo before opt).length opt.rdata.length =
      (m.extend option h hfit).bytes := by
  rw [Message.extend_bytes, withEcs_of_eq (Message.bytes_around h) rfl rfl]

/-- **A query with an OPT record** gets the option after the others, unless it has one. -/
theorem addEcsToPacket_extend (hlen : m.bytes.length ≤ 4096)
    (h : m.additionals = before ++ opt :: after) (hroot : opt.IsRootOpt)
    (hno : ∀ r ∈ before, r.rtype ≠ dnsTypeOpt) (hos : opt.rdata = optionsBytes os)
    (clientIp : IpAddr) (prefixV4 prefixV6 : UInt8) :
    addEcsToPacket clientIp prefixV4 prefixV6 m.bytes =
      if os.any fun o => o.code = ednsClientSubnet then (.ok (), m.bytes)
      else (.ok (), (m.extend (ecsOption clientIp prefixV4 prefixV6) h
        (fits_ecsOption hlen h clientIp prefixV4 prefixV6)).bytes) := by
  rw [addEcsToPacket_eq, ecsTarget_message hlen h hroot hno hos]
  split
  · next hsome =>
    split at hsome
    · cases hsome
    · next hany =>
      simp only [Outcome.ok.injEq, Option.some.injEq, Prod.mk.injEq] at hsome
      obtain ⟨rfl, rfl⟩ := hsome
      rw [if_neg hany, withEcs_message h]
  · next hnone =>
    split at hnone
    · next hany => rw [if_pos hany]
    · cases hnone
  all_goals next h => cases h

/-- An error leaves the packet as it was. -/
theorem addEcsToPacket_err {clientIp : IpAddr} {prefixV4 prefixV6 : UInt8} {msg : Error}
    {packet' : Packet} (h : addEcsToPacket clientIp prefixV4 prefixV6 packet =
      (.err msg, packet')) : packet' = packet := by
  rw [addEcsToPacket_eq] at h
  cases ht : ecsTarget packet with
  | ok target =>
    rw [ht] at h
    cases target <;> simp at h
  | err msg' =>
    rw [ht] at h
    exact (Prod.mk.inj h).2.symm
  | panic => simp [ht] at h
  | timeout => simp [ht] at h

/-- A packet that has become too large is left alone. -/
theorem addEcsToPacket_of_large (h : 4096 < packet.length) (clientIp : IpAddr)
    (prefixV4 prefixV6 : UInt8) :
    addEcsToPacket clientIp prefixV4 prefixV6 packet = (.err "Packet too large", packet) := by
  rw [addEcsToPacket_eq, ecsTarget, ecsAdditional, ensure_pos (by omega), ok_bind,
    ensure_neg (by omega)]
  rfl

/-- **A query that has the option** is left alone, whatever the address. -/
theorem addEcsToPacket_again (h : m.additionals = before ++ opt :: after) (hroot : opt.IsRootOpt)
    (hno : ∀ r ∈ before, r.rtype ≠ dnsTypeOpt) (hos : opt.rdata = optionsBytes os)
    (hany : ∃ o ∈ os, o.code = ednsClientSubnet) (clientIp : IpAddr) (prefixV4 prefixV6 : UInt8) :
    (addEcsToPacket clientIp prefixV4 prefixV6 m.bytes).2 = m.bytes := by
  by_cases hlen : m.bytes.length ≤ 4096
  · rw [addEcsToPacket_extend hlen h hroot hno hos, if_pos (by simpa using hany)]
  · rw [addEcsToPacket_of_large (by omega)]

/-- **A query with one OPT record**, of the root and made of options: one that has the client subnet
option stays as it is; any other gets it after its options, and is the same query otherwise. A
second call changes nothing, and neither does a call that fails, on whatever packet. -/
theorem addEcsToPacket_message (clientIp : IpAddr) (prefixV4 prefixV6 : UInt8) (packet : Packet) :
    (∀ m before opt after os, segment packet = .ok m → packet.length ≤ 4096 →
      m.additionals = before ++ opt :: after → opt.IsRootOpt →
      (∀ r ∈ before ++ after, r.rtype ≠ dnsTypeOpt) → opt.rdata = optionsBytes os →
      ∃ packet', addEcsToPacket clientIp prefixV4 prefixV6 packet = (.ok (), packet') ∧
        ((∃ o ∈ os, o.code = ednsClientSubnet) → packet' = packet) ∧
        ((∀ o ∈ os, o.code ≠ ednsClientSubnet) → ∃ m' opt', segment packet' = .ok m' ∧
          m.WithAdditionals m' (before ++ opt' :: after) ∧ m'.header = m.header ∧
          opt.Extends opt' (ecsOptionOf clientIp prefixV4 prefixV6).bytes) ∧
        ∀ clientIp' prefixV4' prefixV6',
          (addEcsToPacket clientIp' prefixV4' prefixV6' packet').2 = packet') ∧
    ∀ msg packet', addEcsToPacket clientIp prefixV4 prefixV6 packet = (.err msg, packet') →
      packet' = packet := by
  refine ⟨fun m before opt after os hm hlen h hroot hno hos => ?_,
    fun msg packet' herr => addEcsToPacket_err herr⟩
  rw [segment_eq_ok_iff] at hm
  subst hm
  have hbefore : ∀ r ∈ before, r.rtype ≠ dnsTypeOpt := fun r hr => hno r (List.mem_append_left _ hr)
  rw [addEcsToPacket_extend hlen h hroot hbefore hos]
  split
  · next hany =>
    have hhas : ∃ o ∈ os, o.code = ednsClientSubnet := by simpa using hany
    refine ⟨m.bytes, rfl, fun _ => rfl, fun hall => ?_,
      addEcsToPacket_again h hroot hbefore hos hhas⟩
    obtain ⟨o, ho, hcode⟩ := hhas
    exact absurd hcode (hall o ho)
  · next hany =>
    have hfit := fits_ecsOption hlen h clientIp prefixV4 prefixV6
    have hm' : (m.extend (ecsOption clientIp prefixV4 prefixV6) h hfit).additionals = before ++
      { opt with rdata := opt.rdata ++ ecsOption clientIp prefixV4 prefixV6, fits := hfit } ::
        after := rfl
    refine ⟨_, rfl, fun hhas => absurd (by simpa using hhas) hany, fun _ => ?_, ?_⟩
    · refine ⟨_, _, segment_complete _, ⟨rfl, rfl, rfl, rfl, rfl, hm'⟩, ?_, rfl, rfl, rfl, rfl, rfl⟩
      simp only [Message.header, Message.extend, h, List.length_append, List.length_cons]
    · have hos' : opt.rdata ++ ecsOption clientIp prefixV4 prefixV6 =
          optionsBytes (os ++ [ecsOptionOf clientIp prefixV4 prefixV6]) := by
        rw [optionsBytes_concat, ← hos, ecsOptionOf_bytes]
      exact addEcsToPacket_again hm' hroot hbefore hos'
        ⟨ecsOptionOf clientIp prefixV4 prefixV6, List.mem_append_right _ (List.mem_singleton_self _),
          rfl⟩

/-- The query for the root with an OPT record gets the option. -/
theorem addEcsToPacket_message_root :
    ∃ packet', addEcsToPacket (.v4 #v[192, 168, 1, 7]) 24 56
        (rootQuery [optRecord 4096] (by decide)).bytes = (.ok (), packet') ∧
      ∀ clientIp' prefixV4' prefixV6',
        (addEcsToPacket clientIp' prefixV4' prefixV6' packet').2 = packet' := by
  obtain ⟨packet', hok, -, -, hagain⟩ := (addEcsToPacket_message (.v4 #v[192, 168, 1, 7]) 24 56
    (rootQuery [optRecord 4096] (by decide)).bytes).1 _ [] (optRecord 4096) [] []
    (segment_complete _) (by decide) rfl ⟨rfl, rfl⟩ (by simp) rfl
  exact ⟨packet', hok, hagain⟩

end

end DohProxy.Dns
