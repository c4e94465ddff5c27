import DohProxy.Json.Sections
import DohProxy.Net.IpText
import DohProxy.Upstream.Rewrite

/-!
# What the JSON interface writes is read back

The JSON interface translates twice: `build_dns_query` writes the parameters of a request into a
query, and `parse_dns_to_json` writes a reply as JSON, with names and addresses as text. What is
written as text is there to be read: a name by whoever asked for it, an address by
`IpAddr::from_str` or its like.

## The model

A name in a request is text, so its bytes are UTF-8. The empty labels of a name, which two dots in a
row, a dot in front or one at the end make, are left out of the query. Base64 is a parameter: what
is used of it is that its alphabet has no dot and no colon.

## What is proved

* `parseDnsToJson_buildDnsQuery` — **the JSON for a request's own query says what was asked**: the
  name without its empty labels, the type and whether checking is disabled, for every name whose
  labels are shorter than 192 bytes, whether or not a packet may hold it;
* `addresses_of_parseDnsToJson` — **the addresses that are read back from the answers of the JSON
  are the addresses the upstream layer sees in the reply**, of both families and in order.
-/

namespace DohProxy.Json

open Lib Outcome Net Dns Upstream

/-! ### Names -/

/-- The labels of a name that the query has. -/
def labels (name : List Char) : List (List Char) :=
  (name.splitOn '.').filter fun label => !label.isEmpty

/-- The name as the JSON has it. -/
def nameText (name : List Char) : String := ".".intercalate ((labels name).map String.ofList)

/-- A dot is in no other character's encoding. -/
theorem pieces_utf8 (name : List Char) : pieces (utf8 name) = (labels name).map utf8 := by
  have hsplit : (utf8 name).splitOn 0x2e = (name.splitOn '.').map utf8 := by
    apply Text.splitOn_flatMap
    · rfl
    · intro c hc hmem
      have hdot : c.toNat = '.'.toNat := toNat_of_mem_utf8EncodeChar hmem (by decide)
      exact hc (Char.toNat_inj.mp hdot)
  rw [pieces, hsplit, labels, List.filter_map]
  apply congrArg
  apply List.filter_congr
  intro label _
  rw [Function.comp_apply, Bool.not_inj_iff, Bool.eq_iff_iff, List.isEmpty_iff, List.isEmpty_iff]
  exact utf8_eq_nil_iff

theorem lossyName_utf8 (name : List Char) :
    lossyName (pieces (utf8 name)) = nameText name := by
  rw [lossyName, pieces_utf8, nameText, List.map_map]
  apply congrArg
  apply List.map_congr_left
  intro label _
  exact fromUtf8Lossy_utf8 label

section

variable {packet : List UInt8} {off : ℕ}

/-- **Labels that are no pointers are read**, however long the name is. -/
theorem settles_of_labelBytes {bs : List (List UInt8)} {rest : List UInt8}
    (hd : packet.drop off = labelBytes bs ++ 0 :: rest)
    (hbs : ∀ label ∈ bs, label ≠ [] ∧ label.length < 192) :
    ∀ done : List (List UInt8), (∀ label ∈ done, label ≠ []) → Settles
      (fun fuel => parseNameLoop packet fuel off (lossyName done) none)
        (.ok (lossyName (done ++ bs), off + octets bs + 1)) := by
  induction bs generalizing off with
  | nil =>
    intro done _
    have hroot : packet[off]? = some 0 := by
      rw [← List.head?_drop, hd]
      rfl
    rw [List.append_nil, octets_nil]
    exact settles_succ rfl (parseNameLoop_root hroot _ none) (settles_const (by simp))
  | cons label bs ih =>
    intro done hdone
    obtain ⟨hne, hshort⟩ := hbs label List.mem_cons_self
    have hlen : (UInt8.ofNat label.length).toNat = label.length :=
      UInt8.toNat_ofNat_of_lt' (show label.length < 256 by omega)
    have hpos := List.length_pos_iff.mpr hne
    have hd : packet.drop off =
        UInt8.ofNat label.length :: (label ++ (labelBytes bs ++ 0 :: rest)) := by
      rw [hd, labelBytes, List.flatMap_cons, List.append_assoc, List.cons_append]
      rfl
    have hlabel := drop_succ_of_drop hd
    have hbehind := drop_of_drop _ hlabel
    have hbyte : packet[off]? = some (UInt8.ofNat label.length) := by
      rw [← List.head?_drop, hd]
      rfl
    have hoff := (List.getElem?_eq_some_iff.mp hbyte).1
    have hle : off + 1 + label.length ≤ packet.length := by
      have := length_of_drop hlabel (by simp)
      rw [List.length_append] at this
      omega
    have hc : ¬ UInt8.ofNat label.length &&& 0xc0 = 0xc0 := fun hc => by
      have := (and_c0_eq_c0_iff _).mp hc
      omega
    have h0 : ¬ UInt8.ofNat label.length = 0 := fun h0 => by
      rw [h0] at hlen
      exact absurd hlen.symm (by simpa using hne)
    have hs := ih hbehind (fun l hl => hbs l (List.mem_cons_of_mem _ hl)) (done ++ [label])
      fun l hl => by
        rcases List.mem_append.mp hl with hl | hl
        · exact hdone l hl
        · rw [List.mem_singleton.mp hl]
          exact hne
    rw [List.append_assoc, List.singleton_append] at hs
    rw [octets_cons, show off + (1 + label.length + octets bs) + 1 =
      off + 1 + label.length + octets bs + 1 by omega]
    refine settles_succ rfl (fun fuel => ?_) hs
    simp only [parseNameLoop, ensure_pos hoff, ok_bind, index_eq_ok.mpr hbyte, if_neg hc,
      if_neg h0, hlen, ensure_pos hle, slice_of_drop rfl hle (hlabel.trans (by rw [hbehind])),
      lossyName_concat hdone]

end

/-! ### The JSON for a query -/

/-- The JSON for a query of its own: what was asked, and no records. -/
def DnsJsonQuery.echo (query : DnsJsonQuery) (name : List Char) : DnsJsonResponse where
  status := 0
  tc := false
  rd := true
  ra := false
  ad := false
  cd := query.cd.getD false
  question := some [⟨nameText name, query.qtype.getD typeA⟩]
  answer := none
  authority := none
  additional := none
  comment := none

section

variable {query : DnsJsonQuery} {packet : List UInt8} (base64 : List UInt8 → String)

/-- What is not to be reported is left out. -/
theorem settles_parseRr {off next : ℕ} {rr : ResourceRecord}
    (h : unpackRr packet off = .ok (rr, next)) (hout : ¬ Reportable rr) :
    Settles (fun fuel => parseRr base64 fuel packet off) (.ok (none, next)) := by
  obtain ⟨fields, hname, htype, hclass, -, hlen, -, hnext, hle⟩ := unpackRr_at h
  rw [hlen] at hnext
  subst hnext
  refine (settles_of_fromWire hname).bind_ok ?_
  have hleft : be16At packet (fields + 2) ≠ classIn ∨ be16At packet fields = dnsTypeOpt := by
    rw [Reportable, hclass, htype, RrType.toU16_fromU16, not_and_or, not_not] at hout
    exact hout
  simp only [ensure_pos (show fields + 10 ≤ packet.length by omega), ok_bind,
    readU16_pos (show fields + 2 ≤ packet.length by omega),
    readU16_pos (show fields + 2 + 2 ≤ packet.length by omega),
    readU32_pos (show fields + 4 + 4 ≤ packet.length by omega),
    readU16_pos (show fields + 8 + 2 ≤ packet.length by omega), ensure_pos hle, if_pos hleft]
  exact settles_const (by simp)

/-- The only question is read. -/
theorem settles_parseQuestions {name : List Char} {opt : List UInt8}
    (hname : ∀ label ∈ labels name, (utf8 label).length < 192)
    (hd : packet.drop 12 = labelBytes (pieces (utf8 name)) ++
      0 :: (u16Bytes (query.qtype.getD typeA) ++ (u16Bytes classIn ++ opt))) :
    ∃ stop, packet.drop stop = opt ∧ stop ≤ packet.length ∧ Settles
      (fun fuel => parseQuestions fuel packet 1 12)
        (.ok ([⟨nameText name, query.qtype.getD typeA⟩], stop)) := by
  have hpieces : ∀ label ∈ pieces (utf8 name), label ≠ [] ∧ label.length < 192 := by
    intro label hlabel
    rw [pieces_utf8, List.mem_map] at hlabel
    obtain ⟨text, htext, rfl⟩ := hlabel
    refine ⟨fun hnil => ?_, hname text htext⟩
    have hne := (List.mem_filter.mp htext).2
    rw [utf8_eq_nil_iff.mp hnil] at hne
    cases hne
  have hroot := drop_of_drop _ hd
  rw [length_labelBytes] at hroot
  have htype := drop_succ_of_drop hroot
  have hclass := drop_of_drop _ htype
  have hopt := drop_of_drop _ hclass
  have hlen := length_of_drop hroot (by simp)
  simp only [List.length_cons, List.length_append, length_u16Bytes] at hlen htype hclass hopt
  have hs := settles_of_labelBytes hd hpieces [] (by simp)
  rw [List.nil_append, lossyName_utf8] at hs
  refine ⟨12 + octets (pieces (utf8 name)) + 1 + 2 + 2, hopt, by omega, ?_⟩
  refine hs.bind_ok ?_
  simp only [ensure_pos (show 12 + octets (pieces (utf8 name)) + 1 + 4 ≤ packet.length by omega),
    ok_bind, readU16_of_drop htype, parseQuestions, pure_eq_ok]
  exact settles_const (by simp)

/-- The additional section has no record to report. -/
theorem settles_parseRrs_opt {stop : ℕ} (hd : packet.drop stop = if query.wantsOpt
      then query.optRecord else []) :
    ∃ stop', Settles (fun fuel => parseRrs base64 fuel packet
      (if query.wantsOpt then (1 : UInt16) else 0).toNat stop) (.ok ([], stop')) := by
  cases hwants : query.wantsOpt with
  | false => exact ⟨stop, settles_const (by simp)⟩
  | true =>
    rw [hwants, if_pos rfl] at hd
    obtain ⟨rr, hrr, htype⟩ := unpackRr_optRecord hd
    have hout : ¬ Reportable rr := fun hr => hr.2 (by rw [htype]; rfl)
    refine ⟨packet.length, ?_⟩
    exact (settles_parseRr base64 hrr hout).bind_ok (settles_const (by simp))

end

/-- **The JSON for a request's own query says what was asked**: the name without its empty labels,
the type, whether checking is disabled, and no records. -/
theorem parseDnsToJson_buildDnsQuery (base64 : List UInt8 → String) (query : DnsJsonQuery)
    (name : List Char) (hname : query.name = utf8 name)
    (hshort : ∀ label ∈ labels name, (utf8 label).length < 192) (id₀ id₁ : UInt8) :
    ∃ packet, buildDnsQuery query id₀ id₁ = .ok packet ∧
      Settles (fun fuel => parseDnsToJson base64 fuel packet) (.ok (query.echo name)) := by
  refine ⟨_, buildDnsQuery_eq query id₀ id₁, ?_⟩
  rw [hname]
  generalize hopt : (if query.wantsOpt then query.optRecord else []) = opt
  generalize hpacket : query.header id₀ id₁ (if query.wantsOpt then 1 else 0) ++
    (labelBytes (pieces (utf8 name)) ++
    0 :: (u16Bytes (query.qtype.getD typeA) ++ (u16Bytes classIn ++ opt))) = packet
  have hlen : 12 ≤ packet.length := by
    rw [← hpacket, List.length_append, length_header]
    exact Nat.le_add_right ..
  have hd₁₂ : packet.drop 12 = labelBytes (pieces (utf8 name)) ++
      0 :: (u16Bytes (query.qtype.getD typeA) ++ (u16Bytes classIn ++ opt)) := by
    rw [← hpacket]; rfl
  -- the header
  have hd₂ : packet.drop 2 = 0x01 :: (if query.cd.getD false then 0x10 else 0x00) ::
      packet.drop 4 := by rw [← hpacket]; rfl
  have hd₄ : packet.drop 4 = u16Bytes 1 ++ packet.drop 6 := by rw [← hpacket]; rfl
  have hd₆ : packet.drop 6 = u16Bytes 0 ++ packet.drop 8 := by rw [← hpacket]; rfl
  have hd₈ : packet.drop 8 = u16Bytes 0 ++ packet.drop 10 := by rw [← hpacket]; rfl
  have hd₁₀ : packet.drop 10 = u16Bytes (if query.wantsOpt then 1 else 0) ++ packet.drop 12 := by
    rw [← hpacket]; rfl
  have hflags : packet.drop 2 = u16Bytes (be16 0x01 (if query.cd.getD false then 0x10 else 0x00)) ++
      packet.drop 4 := by rw [hd₂, u16Bytes_be16]; rfl
  have hrcode : rcode packet = .ok 0 := by
    rw [rcode, index_of_drop (drop_succ_of_drop hd₂)]
    cases query.cd.getD false <;> rfl
  -- the sections
  obtain ⟨stop, hstop, -, hquestions⟩ := settles_parseQuestions hshort hd₁₂
  obtain ⟨stop', hadditional⟩ := settles_parseRrs_opt base64 (hstop.trans hopt.symm)
  simp only [parseDnsToJson, ensure_pos hlen, ok_bind, qdcount, ancount, arcount,
    readU16_of_drop hflags, readU16_of_drop hd₄, readU16_of_drop hd₆, readU16_of_drop hd₈,
    readU16_of_drop hd₁₀, hrcode]
  refine hquestions.bind_ok ?_
  refine (settles_const (by simp)).bind_ok ?_
  refine (settles_const (by simp)).bind_ok ?_
  refine hadditional.bind_ok ?_
  rw [DnsJsonQuery.echo]
  cases query.cd.getD false with
  | false => exact settles_const (by simp)
  | true => exact settles_const (by simp)

/-- A dot in front, two in a row and one at the end: three labels are left of six. -/
theorem parseDnsToJson_buildDnsQuery_dots :
    ∃ packet,
      buildDnsQuery ⟨utf8 ".a..é.b.".toList, some typeAaaa, some true, some true, none⟩ 7 9 =
        .ok packet ∧
      Settles (fun fuel => parseDnsToJson (fun _ => "") fuel packet) (.ok
        (DnsJsonQuery.echo ⟨utf8 ".a..é.b.".toList, some typeAaaa, some true, some true, none⟩
          ".a..é.b.".toList)) :=
  parseDnsToJson_buildDnsQuery (fun _ => "") _ ".a..é.b.".toList rfl (by decide +kernel) 7 9

example : nameText ".a..é.b.".toList = "a.é.b" := by decide +kernel

/-! ### Addresses -/

/-- The address in the data of a record of the JSON, as a reader of it gets it. -/
def DnsAnswer.address (answer : DnsAnswer) : Option IpAddr :=
  if answer.rtype = typeA ∨ answer.rtype = typeAaaa then IpAddr.fromStr answer.data.toList
  else none

/-- The address that the upstream layer sees in a record. -/
def addressIn (rr : ResourceRecord) : Option IpAddr :=
  if rr.rrClass ≠ dnsClassIn then none
  else
    match rr.rrType with
    | .A => if h : rr.rdata.length = 4 then some (.v4 ⟨rr.rdata.toArray, h⟩) else none
    | .AAAA => if h : rr.rdata.length = 16 then some (.v6 ⟨rr.rdata.toArray, h⟩) else none
    | _ => none

theorem answerIps_eq (m : Msg) : m.answerIps = m.answers.filterMap addressIn := rfl

/-- The text of an IPv4 address, as a record of the JSON has it. -/
theorem fromStr_octets {octets : List UInt8} (h : octets.length = 4) :
    IpAddr.fromStr (".".intercalate (octets.map fun octet => toString octet.toNat)).toList =
      some (.v4 ⟨octets.toArray, h⟩) := by
  have htext : (".".intercalate (octets.map fun octet => toString octet.toNat)).toList =
      dotted ⟨octets.toArray, h⟩ := by
    rw [String.toList_intercalate, List.map_map, dotted]
    apply congrArg
    apply List.map_congr_left
    intro octet _
    exact String.toList_ofList
  rw [htext, fromStr_dotted]

/-- The groups of a buffer are its bytes. -/
theorem flatMap_be16At (bs : List UInt8) {n : ℕ} (h : 2 * n ≤ bs.length) :
    (List.range n).flatMap (fun i => u16Bytes (be16At bs (2 * i))) = bs.take (2 * n) := by
  induction n with
  | zero => rfl
  | succ n ih =>
    have htwo := drop_eq_u16Bytes (show 2 * n + 2 ≤ bs.length by omega)
    rw [List.range_succ, List.flatMap_append, ih (by omega), Nat.mul_succ, List.take_add, htwo,
      List.flatMap_singleton]
    rfl

/-- The text of an IPv6 address, as a record of the JSON has it. -/
theorem fromStr_hexGroups {octets : List UInt8} (h : octets.length = 16) :
    IpAddr.fromStr (":".intercalate ((List.range 8).map fun i =>
      hex (be16At octets (2 * i)))).toList = some (.v6 ⟨octets.toArray, h⟩) := by
  have htext : (":".intercalate ((List.range 8).map fun i => hex (be16At octets (2 * i)))).toList =
      fmtSubslice ((List.range 8).map fun i => be16At octets (2 * i)) := by
    rw [String.toList_intercalate, List.map_map, fmtSubslice, List.map_map]
    apply congrArg
    apply List.map_congr_left
    intro i _
    exact String.toList_ofList
  have hgroups : ofGroups ((List.range 8).map fun i => be16At octets (2 * i)) =
      ⟨octets.toArray, h⟩ := by
    have hbytes := flatMap_be16At octets (show 2 * 8 ≤ octets.length by omega)
    rw [List.take_of_length_le (by omega)] at hbytes
    rw [ofGroups, List.flatMap_map, hbytes]
    apply Vector.ext
    intro i hi
    simp [List.getD_eq_getElem?_getD, h]
  rw [htext, fromStr_groups (by simp), hgroups]

section

variable {packet : List UInt8} {off next : ℕ} {base64 : List UInt8 → String} {fuel : ℕ}

variable {rdata rest : List UInt8}

/-- **The data of an address record** is its address as text, if it has the right length. -/
theorem rdataText_a (hd : packet.drop off = rdata ++ rest) (hlen : rdata.length = 4) :
    rdataText base64 fuel packet typeA off rdata.length =
      .ok (".".intercalate (rdata.map fun octet => toString octet.toNat)) := by
  match rdata, hlen with
  | [a, b, c, d], _ =>
    have hb := drop_succ_of_drop hd
    have hc := drop_succ_of_drop hb
    have he := drop_succ_of_drop hc
    rw [rdataText, if_pos ⟨rfl, rfl⟩, index_of_drop hd, index_of_drop hb, index_of_drop hc,
      index_of_drop he]
    rfl

theorem rdataText_aaaa (hd : packet.drop off = rdata ++ rest) (hlen : rdata.length = 16) :
    rdataText base64 fuel packet typeAaaa off rdata.length =
      .ok (":".intercalate ((List.range 8).map fun i => hex (be16At rdata (2 * i)))) := by
  have hroom := length_of_drop hd (by intro h; simp [List.append_eq_nil_iff.mp h] at hlen)
  rw [List.length_append] at hroom
  have hslice : (slice packet off (off + 16) : Outcome Error (List UInt8)) = .ok rdata :=
    slice_of_drop (by omega) (by omega)
      (hd.trans (by rw [show off + 16 = off + rdata.length by omega, drop_of_drop _ hd]))
  rw [rdataText, if_neg fun h => absurd h.1 (by decide), if_pos ⟨rfl, hlen⟩, hslice]
  rfl

/-- If it has not, it is encoded as it is. -/
theorem rdataText_other {rtype : UInt16} (hd : packet.drop off = rdata ++ rest)
    (hroom : off + rdata.length ≤ packet.length)
    (h : rtype = typeA ∧ rdata.length ≠ 4 ∨ rtype = typeAaaa ∧ rdata.length ≠ 16) :
    rdataText base64 fuel packet rtype off rdata.length = .ok (base64 rdata) := by
  have hslice : (slice packet off (off + rdata.length) : Outcome Error (List UInt8)) = .ok rdata :=
    slice_of_drop rfl hroom (hd.trans (by rw [drop_of_drop _ hd]))
  rcases h with ⟨rfl, hlen⟩ | ⟨rfl, hlen⟩
  · simp [rdataText, hlen, hslice, typeA, typeAaaa, typeCname, typeNs, typePtr, typeMx, typeTxt,
      typeSoa, typeSrv, typeCaa]
  · simp [rdataText, hlen, hslice, typeA, typeAaaa, typeCname, typeNs, typePtr, typeMx, typeTxt,
      typeSoa, typeSrv, typeCaa]

theorem addressIn_a {rr : ResourceRecord} (hc : rr.rrClass = dnsClassIn) (ht : rr.rrType = .A) :
    addressIn rr = if h : rr.rdata.length = 4 then some (.v4 ⟨rr.rdata.toArray, h⟩) else none := by
  simp only [addressIn, hc, ht, ne_eq, not_true_eq_false, if_false]

theorem addressIn_aaaa {rr : ResourceRecord} (hc : rr.rrClass = dnsClassIn)
    (ht : rr.rrType = .AAAA) : addressIn rr =
      if h : rr.rdata.length = 16 then some (.v6 ⟨rr.rdata.toArray, h⟩) else none := by
  simp only [addressIn, hc, ht, ne_eq, not_true_eq_false, if_false]

/-- A record of another type has no address. -/
theorem addressIn_of_ne {rr : ResourceRecord} (h : rr.rrType ≠ .A) (h' : rr.rrType ≠ .AAAA) :
    addressIn rr = none := by
  unfold addressIn
  split
  · rfl
  · split
    · next ht => exact absurd ht h
    · next ht => exact absurd ht h'
    · rfl

/-- **The address of a reported record** is read back from its text. -/
theorem address_eq {rr : ResourceRecord} {code : UInt16} {name data : String} {ttl : UInt32}
    (hbase64 : ∀ bs, '.' ∉ (base64 bs).toList ∧ ':' ∉ (base64 bs).toList)
    (htype : rr.rrType = RrType.fromU16 code) (hclass : rr.rrClass = dnsClassIn)
    (hd : packet.drop off = rr.rdata ++ rest) (hroom : off + rr.rdata.length ≤ packet.length)
    (h : rdataText base64 fuel packet code off rr.rdata.length = .ok data) :
    DnsAnswer.address ⟨name, code, ttl, data⟩ = addressIn rr := by
  have hnone : IpAddr.fromStr (base64 rr.rdata).toList = none :=
    fromStr_of_notMem (hbase64 _).1 (hbase64 _).2
  by_cases hA : code = typeA
  · subst hA
    rw [DnsAnswer.address, if_pos (.inl rfl), addressIn_a hclass htype]
    by_cases hfour : rr.rdata.length = 4
    · rw [rdataText_a hd hfour, Outcome.ok.injEq] at h
      rw [← h, fromStr_octets hfour, dif_pos hfour]
    · rw [rdataText_other hd hroom (.inl ⟨rfl, hfour⟩), Outcome.ok.injEq] at h
      rw [← h, hnone, dif_neg hfour]
  by_cases hAaaa : code = typeAaaa
  · subst hAaaa
    rw [DnsAnswer.address, if_pos (.inr rfl), addressIn_aaaa hclass htype]
    by_cases hsixteen : rr.rdata.length = 16
    · rw [rdataText_aaaa hd hsixteen, Outcome.ok.injEq] at h
      rw [← h, fromStr_hexGroups hsixteen, dif_pos hsixteen]
    · rw [rdataText_other hd hroom (.inr ⟨rfl, hsixteen⟩), Outcome.ok.injEq] at h
      rw [← h, hnone, dif_neg hsixteen]
  · have hcode := RrType.toU16_fromU16 code
    rw [DnsAnswer.address, if_neg (by simp [hA, hAaaa]), addressIn_of_ne]
    · rw [htype]
      intro ht
      exact hA (by rw [← hcode, ht]; rfl)
    · rw [htype]
      intro ht
      exact hAaaa (by rw [← hcode, ht]; rfl)

/-- **A record**, reported or left out. -/
theorem address_of_unpackRr {rr : ResourceRecord} {answer : Option DnsAnswer} {next' : ℕ}
    (hbase64 : ∀ bs, '.' ∉ (base64 bs).toList ∧ ':' ∉ (base64 bs).toList)
    (hrr : unpackRr packet off = .ok (rr, next))
    (h : parseRr base64 fuel packet off = .ok (answer, next')) :
    answer.toList.filterMap DnsAnswer.address = (addressIn rr).toList := by
  obtain ⟨fields, hname, htype, hclass, -, hlen, hd, -, -⟩ := unpackRr_at hrr
  simp only [parseRr, bind_eq_ok, Prod.exists, ensure_eq_ok, readU16_eq_ok] at h
  obtain ⟨name, e, hr, _, -, _, ⟨-, rfl⟩, _, ⟨-, rfl⟩, ttl, -, _, ⟨-, rfl⟩, _, hroom, h⟩ := h
  obtain ⟨rfl, rfl⟩ := Prod.mk.inj (parseName_of_fromWire hname hr)
  rw [← hlen] at h hroom
  split at h
  · next hout =>
    cases h
    rcases hout with hout | hout
    · rw [addressIn, if_pos (by rw [hclass]; exact hout)]
      rfl
    · rw [addressIn_of_ne (by rw [htype, hout]; decide) (by rw [htype, hout]; decide)]
      rfl
  · next hin =>
    rw [not_or, not_not] at hin
    simp only [bind_eq_ok] at h
    obtain ⟨data, hdata, h⟩ := h
    cases h
    rw [Option.toList_some, List.filterMap_cons, List.filterMap_nil,
      address_eq hbase64 htype (hclass.trans hin.1) hd hroom hdata]
    cases addressIn rr <;> rfl

/-- **The records of a section**, in order. -/
theorem addresses_of_unpackRrSection
    (hbase64 : ∀ bs, '.' ∉ (base64 bs).toList ∧ ':' ∉ (base64 bs).toList) :
    ∀ {n off stop stop' : ℕ} {rrs : List ResourceRecord} {answers : List DnsAnswer},
      unpackRrSection packet n off = .ok (rrs, stop) →
      parseRrs base64 fuel packet n off = .ok (answers, stop') →
      answers.filterMap DnsAnswer.address = rrs.filterMap addressIn := by
  intro n
  induction n with
  | zero =>
    intro off stop stop' rrs answers hrrs h
    cases hrrs
    cases h
    rfl
  | succ n ih =>
    intro off stop stop' rrs answers hrrs h
    obtain ⟨rr, e, rest, hrr, hrest, rfl⟩ := unpackRrSection_succ hrrs
    simp only [parseRrs, bind_eq_ok, Prod.exists] at h
    obtain ⟨answer, e', hanswer, more, _, hmore, h⟩ := h
    cases h
    obtain ⟨rfl, -⟩ := parseRr_of_unpackRr hrr hanswer
    rw [List.filterMap_append, address_of_unpackRr hbase64 hrr hanswer, ih hrest hmore]
    cases haddress : addressIn rr with
    | none => rw [List.filterMap_cons_none haddress]; rfl
    | some ip => rw [List.filterMap_cons_some haddress]; rfl

end

/-- **The addresses that are read back from the answers are those the upstream layer sees**, in
order. -/
theorem addresses_of_parseDnsToJson {base64 : List UInt8 → String} {fuel : ℕ} {packet : List UInt8}
    {m : Msg} {r : DnsJsonResponse}
    (hbase64 : ∀ bs, '.' ∉ (base64 bs).toList ∧ ':' ∉ (base64 bs).toList)
    (h : Msg.unpack packet = .ok m) (hr : parseDnsToJson base64 fuel packet = .ok r) :
    (r.answer.getD []).filterMap DnsAnswer.address = m.answerIps := by
  obtain ⟨-, ⟨n, off, stop, stop', answers, hrrs, hanswers, hanswer⟩, -⟩ :=
    parts_of_parseDnsToJson h hr
  rw [answerIps_eq, ← addresses_of_unpackRrSection hbase64 hrrs hanswers, hanswer]
  dsimp only [nonEmpty]
  cases answers with
  | nil => rfl
  | cons answer answers => rfl

/-- A reply with an IPv4 address, an address record that is too short and an IPv6 address. -/
def addressReply : List UInt8 :=
  [0, 0, 0x81, 0x80, 0, 1, 0, 3, 0, 0, 0, 0] ++ [1, 0x61, 0, 0, 1, 0, 1] ++
    [0xc0, 12, 0, 1, 0, 1, 0, 0, 0, 60, 0, 4, 192, 0, 2, 1] ++
    [0xc0, 12, 0, 1, 0, 1, 0, 0, 0, 60, 0, 3, 0, 0, 0] ++
    [0xc0, 12, 0, 28, 0, 1, 0, 0, 0, 60, 0, 16, 0x20, 1, 0xd, 0xb8, 0, 0, 0, 0, 0, 0, 0, 0, 0, 0, 0,
      1]

theorem addresses_of_parseDnsToJson_addressReply :
    ∃ m r, Msg.unpack addressReply = .ok m ∧
      parseDnsToJson (fun _ => "AAAA") 3 addressReply = .ok r ∧
      (r.answer.getD []).filterMap DnsAnswer.address = m.answerIps := by
  obtain ⟨m, hm⟩ : ∃ m, Msg.unpack addressReply = .ok m := ⟨_, rfl⟩
  obtain ⟨r, hr⟩ : ∃ r, parseDnsToJson (fun _ => "AAAA") 3 addressReply = .ok r := ⟨_, rfl⟩
  exact ⟨m, r, hm, hr, addresses_of_parseDnsToJson (fun _ => by decide) hm hr⟩

end DohProxy.Json
