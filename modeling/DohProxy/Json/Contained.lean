import DohProxy.Json.Termination

/-!
# Names inside of RDATA

`parse_rrs` of `dns_json.rs` makes text of a record's data. For CNAME, NS, PTR, MX and SRV records it
has `parse_name` read a name there, which gets the whole packet and an offset, but not where the data
ends. The strings of TXT records and the parts of CAA records are compared with that end.

## The model

`nameEnd` goes through the bytes of the data by themselves, up to the end of a name's own bytes.

## What is proved

`contained_iff` — **a name is read inside of the data exactly if its own bytes end there**, which
nothing checks; then the text does not depend on what is after the record, except through a pointer.
-/

namespace DohProxy.Json

open Lib Outcome Net Dns Upstream

/-- How a name's own bytes end, after `skip` more bytes of a label: with a root byte, or with a
pointer. -/
def nameEnd : (skip : ℕ) → List UInt8 → Option (Option ℕ)
  | _, [] => none
  | skip + 1, _ :: rest => nameEnd skip rest
  | 0, len :: rest =>
    if len &&& 0xc0 = 0xc0 then rest.head?.map fun low => some (pointerTarget len low)
    else if len = 0 then some none
    else nameEnd len.toNat rest

/-- Where the data of the record ends whose fields start at `fields`. -/
def rdataStop (packet : List UInt8) (fields : ℕ) : ℕ :=
  fields + 10 + (be16At packet (fields + 8)).toNat

/-- How the name's own bytes end in the data of a record. -/
def rdataNameEnd (packet : List UInt8) (fields start : ℕ) : Option (Option ℕ) :=
  nameEnd 0 ((packet.take (rdataStop packet fields)).drop start)

section

variable (base64 : List UInt8 → String) (fuel : ℕ) (packet : List UInt8)

/-- Among `count` records from `off` on, `parse_rrs` reports this one, whose fields start at
`fields`. -/
inductive Reports : (count off fields : ℕ) → DnsAnswer → Prop where
  /-- It is the first one. -/
  | here {count off fields next : ℕ} {name : String} {record : DnsAnswer} :
      parseName fuel packet off = .ok (name, fields) →
      parseRr base64 fuel packet off = .ok (some record, next) →
      Reports (count + 1) off fields record
  /-- It is a later one. -/
  | later {count off fields next : ℕ} {first : Option DnsAnswer} {record : DnsAnswer} :
      parseRr base64 fuel packet off = .ok (first, next) → Reports count next fields record →
      Reports (count + 1) off fields record

/-- A record that is reported is contained in its own bytes. -/
structure Contained (fields : ℕ) (record : DnsAnswer) : Prop where
  /-- A name that is read in its data ends there. -/
  inside : ∀ start name next, rdataName packet fields = some start →
    parseName fuel packet start = .ok (name, next) → next ≤ rdataStop packet fields
  /-- The text of its data is the same whatever is after it, as long as a pointer at the end of the
  name leads to the same. -/
  alone : ∀ packet', packet'.take (rdataStop packet fields) = packet.take (rdataStop packet fields) →
    (∀ start target, rdataName packet fields = some start →
      rdataNameEnd packet fields start = some (some target) → ∀ fuel name jumpOffset,
      parseNameLoop packet' fuel target name jumpOffset =
        parseNameLoop packet fuel target name jumpOffset) →
    rdataText base64 fuel packet' record.rtype (fields + 10) (be16At packet (fields + 8)).toNat =
      .ok record.data

end

/-! ### Where a name's own bytes end -/

variable {packet packet' : List UInt8} {off stop fuel : ℕ}

theorem nameEnd_eq_drop (n : ℕ) : ∀ bs : List UInt8, nameEnd n bs = nameEnd 0 (bs.drop n) := by
  induction n with
  | zero => exact fun _ => rfl
  | succ n ih =>
    intro bs
    cases bs with
    | nil => rfl
    | cons b bs => exact ih bs

/-- The label, the pointer or the root byte at an offset. -/
theorem nameEnd_at {len : UInt8} (hb : packet[off]? = some len) (hlt : off < stop) :
    nameEnd 0 ((packet.take stop).drop off) =
      if len &&& 0xc0 = 0xc0 then
        if off + 1 < stop then (packet[off + 1]?).map fun low => some (pointerTarget len low)
        else none
      else if len = 0 then some none
      else nameEnd 0 ((packet.take stop).drop (off + 1 + len.toNat)) := by
  have hwindow : (packet.take stop)[off]? = some len := by rw [List.getElem?_take_of_lt hlt, hb]
  rw [drop_of_getElem? hwindow, nameEnd, nameEnd_eq_drop len.toNat, List.drop_drop,
    List.head?_drop, List.getElem?_take]
  split
  · split <;> rfl
  · rfl

theorem nameEnd_behind (h : stop ≤ off) : nameEnd 0 ((packet.take stop).drop off) = none := by
  rw [List.drop_eq_nil_of_le (by rw [List.length_take]; omega)]
  rfl

/-- After a pointer the end stays as it is. -/
theorem parseNameLoop_jumped : ∀ {fuel off jump : ℕ} {name text : String} {next : ℕ},
    parseNameLoop packet fuel off name (some jump) = .ok (text, next) → next = jump := by
  intro fuel
  induction fuel with
  | zero => intro _ _ _ _ _ h; cases h
  | succ fuel ih =>
    intro off jump name text next h
    simp only [parseNameLoop, bind_eq_ok, ensure_eq_ok] at h
    obtain ⟨_, -, len, -, h⟩ := h
    split at h
    · simp only [bind_eq_ok, ensure_eq_ok, Option.some_or] at h
      obtain ⟨_, -, low, -, h⟩ := h
      exact ih h
    · split at h
      · cases h
        rfl
      · simp only [bind_eq_ok, ensure_eq_ok] at h
        obtain ⟨_, -, label, -, h⟩ := h
        exact ih h

/-- **The reader ends inside of a window exactly if the name's own bytes do.** -/
theorem parseNameLoop_inside_iff : ∀ {fuel off : ℕ} {name text : String} {next : ℕ},
    parseNameLoop packet fuel off name none = .ok (text, next) →
    off < next ∧ (next ≤ stop ↔ (nameEnd 0 ((packet.take stop).drop off)).isSome) := by
  intro fuel
  induction fuel with
  | zero => intro _ _ _ _ h; cases h
  | succ fuel ih =>
    intro off name text next h
    simp only [parseNameLoop, bind_eq_ok, ensure_eq_ok, index_eq_ok] at h
    obtain ⟨_, -, len, hb, h⟩ := h
    have hbehind : stop ≤ off → off < next →
        (next ≤ stop ↔ (nameEnd 0 ((packet.take stop).drop off)).isSome) := by
      intro hle hlt
      rw [nameEnd_behind hle]
      exact iff_of_false (by omega) (by simp)
    split at h
    · next hc =>
      simp only [bind_eq_ok, ensure_eq_ok, index_eq_ok, Option.none_or] at h
      obtain ⟨_, -, low, hlow, h⟩ := h
      obtain rfl := parseNameLoop_jumped h
      refine ⟨by omega, ?_⟩
      by_cases hlt : off < stop
      · rw [nameEnd_at hb hlt, if_pos hc, hlow]
        split
        · exact iff_of_true (by omega) rfl
        · exact iff_of_false (by omega) (by simp)
      · exact hbehind (by omega) (by omega)
    · next hc =>
      split at h
      · next h0 =>
        cases h
        refine ⟨by simp, ?_⟩
        by_cases hlt : off < stop
        · rw [nameEnd_at hb hlt, if_neg hc, if_pos h0]
          exact iff_of_true hlt rfl
        · exact hbehind (by omega) (by simp)
      · next h0 =>
        simp only [bind_eq_ok, ensure_eq_ok] at h
        obtain ⟨_, -, label, -, h⟩ := h
        obtain ⟨hlater, hiff⟩ := ih h
        refine ⟨by omega, ?_⟩
        by_cases hlt : off < stop
        · rw [nameEnd_at hb hlt, if_neg hc, if_neg h0]
          exact hiff
        · exact hbehind (by omega) (by omega)

/-! ### What is read of a record alone -/

section

variable (h : packet'.take stop = packet.take stop)

include h

/-- A name whose own bytes end inside of a window is read from the window, and from where a pointer
leads. -/
theorem parseNameLoop_congr : ∀ {fuel off : ℕ} {name : String} {jumpOffset : Option ℕ}
    {target : Option ℕ}, off ≤ stop → stop ≤ packet.length →
    nameEnd 0 ((packet.take stop).drop off) = some target →
    (∀ t, target = some t → ∀ fuel name jumpOffset,
      parseNameLoop packet' fuel t name jumpOffset = parseNameLoop packet fuel t name jumpOffset) →
    parseNameLoop packet' fuel off name jumpOffset =
      parseNameLoop packet fuel off name jumpOffset := by
  intro fuel
  induction fuel with
  | zero => exact fun _ _ _ _ => rfl
  | succ fuel ih =>
    intro off name jumpOffset target hoff hle hend htarget
    have hlt : off < stop := by
      by_contra hge
      rw [nameEnd_behind (by omega)] at hend
      cases hend
    have hle' : stop ≤ packet'.length := (le_length_iff_of_take_eq h (Nat.le_refl stop)).mpr hle
    have hb : packet[off]? = some packet[off] := List.getElem?_eq_getElem (by omega)
    rw [nameEnd_at hb hlt] at hend
    simp only [parseNameLoop, ensure_pos (show off < packet.length by omega),
      ensure_pos (show off < packet'.length by omega), ok_bind, index_congr h hlt,
      index_eq_ok.mpr hb]
    by_cases hc : packet[off] &&& 0xc0 = 0xc0
    · rw [if_pos hc, Option.ite_none_right_eq_some, Option.map_eq_some_iff] at hend
      obtain ⟨hlt', low, hlow, rfl⟩ := hend
      simp only [if_pos hc, ensure_pos (show off + 1 < packet.length by omega),
        ensure_pos (show off + 1 < packet'.length by omega), ok_bind, index_congr h hlt',
        index_eq_ok.mpr hlow]
      exact htarget _ rfl fuel name _
    · rw [if_neg hc] at hend
      by_cases h0 : packet[off] = 0
      · simp only [if_neg hc, if_pos h0]
      · rw [if_neg h0] at hend
        have hroom : off + 1 + packet[off].toNat ≤ stop := by
          by_contra hgt
          rw [nameEnd_behind (by omega)] at hend
          cases hend
        simp only [if_neg hc, if_neg h0,
          ensure_pos (show off + 1 + packet[off].toNat ≤ packet.length by omega),
          ensure_pos (show off + 1 + packet[off].toNat ≤ packet'.length by omega), ok_bind,
          slice_congr h hroom]
        exact bind_congr fun label => ih hroom hle hend htarget

/-- The strings of a text record are read inside of its data. -/
theorem txtLoop_congr : ∀ {fuel off : ℕ} {text : String},
    txtLoop packet' stop fuel off text = txtLoop packet stop fuel off text := by
  intro fuel
  induction fuel with
  | zero => exact rfl
  | succ fuel ih =>
    intro off text
    unfold txtLoop
    by_cases hlt : off < stop
    · simp only [if_pos hlt, index_congr h hlt]
      refine bind_congr fun len => ?_
      by_cases hle : off + 1 + len.toNat ≤ stop
      · simp only [if_pos hle, slice_congr h hle]
        exact bind_congr fun piece => ih
      · simp only [if_neg hle]
    · simp only [if_neg hlt]

/-- The parts of a certification authority record are read inside of its data. -/
theorem caaText_congr (base64 : List UInt8 → String) {rdlength : ℕ} (hstop : off + rdlength = stop) :
    caaText base64 packet' off rdlength = caaText base64 packet off rdlength := by
  have hall := slice_congr (ε := Error) h (i := off) (show off + rdlength ≤ stop by omega)
  unfold caaText
  by_cases htwo : rdlength ≥ 2
  · simp only [if_pos htwo, index_congr h (show off < stop by omega),
      index_congr h (show off + 1 < stop by omega)]
    refine bind_congr fun flags => bind_congr fun tagLen => ?_
    by_cases hle : off + 2 + tagLen.toNat ≤ off + rdlength
    · simp only [if_pos hle, slice_congr h (show off + 2 + tagLen.toNat ≤ stop by omega),
        slice_congr h (show off + rdlength ≤ stop by omega)]
    · simp only [if_neg hle, hall]
  · simp only [if_neg htwo, hall]

/-- **The text of a record's data is made of the data**, and of what a name there is read as. -/
theorem rdataText_congr (base64 : List UInt8 → String) {rtype : UInt16} {rdlength : ℕ}
    (hstop : off + rdlength = stop)
    (hname : rtype = typeCname ∨ rtype = typeNs ∨ rtype = typePtr →
      parseName fuel packet' off = parseName fuel packet off)
    (hmx : rtype = typeMx ∧ rdlength ≥ 2 →
      parseName fuel packet' (off + 2) = parseName fuel packet (off + 2))
    (hsrv : rtype = typeSrv ∧ rdlength ≥ 6 →
      parseName fuel packet' (off + 6) = parseName fuel packet (off + 6)) :
    rdataText base64 fuel packet' rtype off rdlength =
      rdataText base64 fuel packet rtype off rdlength := by
  unfold rdataText
  by_cases ha : rtype = typeA ∧ rdlength = 4
  · simp only [if_pos ha, index_congr h (show off < stop by omega),
      index_congr h (show off + 1 < stop by omega), index_congr h (show off + 2 < stop by omega),
      index_congr h (show off + 3 < stop by omega)]
  by_cases haaaa : rtype = typeAaaa ∧ rdlength = 16
  · simp only [if_neg ha, if_pos haaaa, slice_congr h (show off + 16 ≤ stop by omega)]
  by_cases hn : rtype = typeCname ∨ rtype = typeNs ∨ rtype = typePtr
  · simp only [if_neg ha, if_neg haaaa, if_pos hn, hname hn]
  by_cases hm : rtype = typeMx ∧ rdlength ≥ 2
  · simp only [if_neg ha, if_neg haaaa, if_neg hn, if_pos hm, hmx hm,
      readU16_congr h (show off + 2 ≤ stop by omega)]
  by_cases htxt : rtype = typeTxt
  · simp only [if_neg ha, if_neg haaaa, if_neg hn, if_neg hm, if_pos htxt, hstop, txtLoop_congr h]
  by_cases hsoa : rtype = typeSoa
  · simp only [if_neg ha, if_neg haaaa, if_neg hn, if_neg hm, if_neg htxt, if_pos hsoa]
  by_cases hs : rtype = typeSrv ∧ rdlength ≥ 6
  · simp only [if_neg ha, if_neg haaaa, if_neg hn, if_neg hm, if_neg htxt, if_neg hsoa, if_pos hs,
      hsrv hs, readU16_congr h (show off + 2 ≤ stop by omega),
      readU16_congr h (show off + 2 + 2 ≤ stop by omega),
      readU16_congr h (show off + 4 + 2 ≤ stop by omega)]
  by_cases hcaa : rtype = typeCaa
  · simp only [if_neg ha, if_neg haaaa, if_neg hn, if_neg hm, if_neg htxt, if_neg hsoa, if_neg hs,
      if_pos hcaa, caaText_congr h base64 hstop]
  · simp only [if_neg ha, if_neg haaaa, if_neg hn, if_neg hm, if_neg htxt, if_neg hsoa, if_neg hs,
      if_neg hcaa, slice_congr h (show off + rdlength ≤ stop by omega)]

end

/-! ### The records that are reported -/

section

variable {base64 : List UInt8 → String} {count fields : ℕ} {record : DnsAnswer}

/-- What is known of a record that is reported. -/
structure RecordAt (base64 : List UInt8 → String) (fuel : ℕ) (packet : List UInt8) (fields : ℕ)
    (record : DnsAnswer) : Prop where
  /-- Its data is inside of the packet. -/
  stop_le : rdataStop packet fields ≤ packet.length
  /-- It is one to report. -/
  reported : ¬ (be16At packet (fields + 2) ≠ classIn ∨ be16At packet fields = dnsTypeOpt)
  /-- Its type. -/
  rtype : record.rtype = be16At packet fields
  /-- Its text. -/
  data : rdataText base64 fuel packet (be16At packet fields) (fields + 10)
    (be16At packet (fields + 8)).toNat = .ok record.data

theorem Reports.recordAt (h : Reports base64 fuel packet count off fields record) :
    RecordAt base64 fuel packet fields record := by
  induction h with
  | later _ _ ih => exact ih
  | here hname hrecord =>
    simp only [parseRr, hname, ok_bind, bind_eq_ok, ensure_eq_ok, readU16_eq_ok] at hrecord
    obtain ⟨_, -, _, ⟨-, rfl⟩, _, ⟨-, rfl⟩, ttl, -, _, ⟨-, rfl⟩, _, hstop, h⟩ := hrecord
    split at h
    · cases h
    · next hin =>
      simp only [bind_eq_ok] at h
      obtain ⟨data, hdata, h⟩ := h
      cases h
      exact ⟨hstop, hin, rfl, hdata⟩

variable {start : ℕ}

/-- A name that is in the data begins inside of it. -/
theorem le_stop_of_rdataName (h : rdataName packet fields = some start) :
    start ≤ rdataStop packet fields := by
  unfold rdataName at h
  unfold rdataStop
  dsimp only at h
  repeat' split at h
  all_goals cases h <;> omega

/-- The name in the data of a reported record has been read. -/
theorem RecordAt.parseName_ok (h : RecordAt base64 fuel packet fields record)
    (hstart : rdataName packet fields = some start) :
    ∃ name next, parseName fuel packet start = .ok (name, next) := by
  obtain ⟨f, hf⟩ := rdataText_of_rdataName base64 h.stop_le hstart
  have hdata := h.data
  rw [hf fuel, bind_eq_ok] at hdata
  obtain ⟨⟨name, next⟩, hname, -⟩ := hdata
  exact ⟨name, next, hname⟩

/-- **A name is read inside of the data exactly if its own bytes end there.** -/
theorem contained_iff (h : Reports base64 fuel packet count off fields record) :
    Contained base64 fuel packet fields record ↔
      ∀ start, rdataName packet fields = some start →
        (rdataNameEnd packet fields start).isSome := by
  have hat := h.recordAt
  constructor
  · intro hcontained start hstart
    obtain ⟨name, next, hname⟩ := hat.parseName_ok hstart
    exact (parseNameLoop_inside_iff hname).2.mp (hcontained.inside start name next hstart hname)
  · intro hend
    refine ⟨fun start name next hstart hname => ?_, fun packet' hsame htarget => ?_⟩
    · exact (parseNameLoop_inside_iff hname).2.mpr (hend start hstart)
    · have hread : ∀ start, rdataName packet fields = some start →
          parseName fuel packet' start = parseName fuel packet start := by
        intro start hstart
        obtain ⟨target, htarget'⟩ := Option.isSome_iff_exists.mp (hend start hstart)
        exact parseNameLoop_congr hsame (le_stop_of_rdataName hstart) hat.stop_le htarget'
          fun t ht => htarget start t hstart (ht ▸ htarget')
      rw [hat.rtype, ← hat.data]
      refine rdataText_congr hsame base64 rfl (fun hn => ?_) (fun hm => ?_) fun hs => ?_
      · refine hread _ ?_
        simp only [rdataName, if_neg hat.reported, if_pos hn]
      · refine hread _ ?_
        have hn : ¬ (be16At packet fields = typeCname ∨ be16At packet fields = typeNs ∨
            be16At packet fields = typePtr) := by rw [hm.1]; decide
        simp only [rdataName, if_neg hat.reported, if_neg hn, if_pos hm]
      · refine hread _ ?_
        have hn : ¬ (be16At packet fields = typeCname ∨ be16At packet fields = typeNs ∨
            be16At packet fields = typePtr) := by rw [hs.1]; decide
        have hm : ¬ (be16At packet fields = typeMx ∧ (be16At packet (fields + 8)).toNat ≥ 2) := by
          rw [hs.1]; exact fun h => absurd h.1 (by decide)
        simp only [rdataName, if_neg hat.reported, if_neg hn, if_neg hm, if_pos hs]

end

/-- The data of this alias is a pointer to the question. -/
theorem contained_iff_alias :
    Contained (fun _ => "") 2 (aliasReply 0xc0 12) 18 ⟨"", typeCname, 0, ""⟩ := by
  have hreports : Reports (fun _ => "") 2 (aliasReply 0xc0 12) 1 17 18 ⟨"", typeCname, 0, ""⟩ :=
    .here (show parseName _ _ _ = .ok ("", 18) from rfl)
      (show parseRr _ _ _ _ = .ok (some _, 30) from rfl)
  refine (contained_iff hreports).mpr fun start hstart => ?_
  have h28 : rdataName (aliasReply 0xc0 12) 18 = some 28 := by decide +kernel
  obtain rfl := Option.some.inj (h28.symm.trans hstart)
  decide +kernel

/-- A reply with an alias record that has no data, and after it the address of a name of one
letter. -/
def emptyAlias (letter : UInt8) : List UInt8 :=
  [0, 0, 0x81, 0x80, 0, 1, 0, 2, 0, 0, 0, 0] ++ [0, 0, 5, 0, 1] ++
    [0, 0, 5, 0, 1, 0, 0, 0, 0, 0, 0] ++
    [1, letter, 0, 0, 1, 0, 1, 0, 0, 0, 60, 0, 4, 192, 0, 2, 1]

/-- **The owner of the next record is reported as the alias** where that has no data. -/
theorem next_owner_is_alias :
    parseRrs (fun _ => "") 3 (emptyAlias 0x61) 2 17 =
      .ok ([⟨"", typeCname, 0, "a"⟩, ⟨"a", typeA, 60, "192.0.2.1"⟩], 45) ∧
    parseRrs (fun _ => "") 3 (emptyAlias 0x62) 2 17 =
      .ok ([⟨"", typeCname, 0, "b"⟩, ⟨"b", typeA, 60, "192.0.2.1"⟩], 45) ∧
    Reports (fun _ => "") 3 (emptyAlias 0x61) 2 17 18 ⟨"", typeCname, 0, "a"⟩ ∧
    ¬ Contained (fun _ => "") 3 (emptyAlias 0x61) 18 ⟨"", typeCname, 0, "a"⟩ := by
  have hreports : Reports (fun _ => "") 3 (emptyAlias 0x61) 2 17 18 ⟨"", typeCname, 0, "a"⟩ :=
    .here (show parseName _ _ _ = .ok ("", 18) by decide +kernel)
      (show parseRr _ _ _ _ = .ok (some _, 28) by decide +kernel)
  refine ⟨by decide +kernel, by decide +kernel, hreports, fun hcontained => ?_⟩
  have hinside := hcontained.inside 28 "a" 31 (by decide +kernel) (by decide +kernel)
  revert hinside
  decide +kernel

end DohProxy.Json
