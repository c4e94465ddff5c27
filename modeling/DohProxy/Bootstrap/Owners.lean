import DohProxy.Bootstrap.Reply
import DohProxy.Dns.SmallestTtl
import DohProxy.Lib.Text
import DohProxy.Lib.Utf8
import DohProxy.Upstream.Pack

/-!
# Whose addresses a bootstrap resolver gives

`parse_bootstrap_dns_response` takes the addresses of the records whose owner is the name in the
reply's own first question. It compares the two as texts, their labels joined by dots, and it never
looks at the name that was asked for.

## The model

`AnswerSection` says what the first question and the answer records of a packet are, with the labels
their names spell. `AnswersHost` is a result that comes from records of the host that was asked for.

## What is proved

* `parseDnsNameLower_sound` — a name is read as its labels in lower case, joined by dots.
* `parse_answersHost_iff` — **the addresses are the host's** exactly when there are none, or the
  reply's own question reads as the host and no owner has a dot inside of a label.
-/

namespace DohProxy.Bootstrap

open Lib Outcome Net Dns Upstream Text

/-- Labels in lower case. -/
def lowerLabels (labels : List (List UInt8)) : List (List UInt8) :=
  labels.map (List.map toAsciiLowercase)

/-- The text that `parse_dns_name_lower` makes of labels. -/
def dottedLower (labels : List (List UInt8)) : List UInt8 :=
  [0x2e].intercalate (lowerLabels labels) ++ [0x2e]

/-- The labels of a host, as they stand in the query for it. -/
def hostLabels (host : List Char) : List (List UInt8) :=
  ((trimEndDots host).splitOn '.').map (List.flatMap String.utf8EncodeChar)

/-- An answer record, with the labels of its owner name. -/
structure AnswerRecord where
  /-- The labels of its owner name. -/
  owner : List (List UInt8)
  /-- Its type. -/
  rrType : UInt16
  /-- Its class. -/
  rrClass : UInt16
  /-- Its TTL in seconds. -/
  ttl : UInt32
  /-- Its data. -/
  rdata : List UInt8
  deriving DecidableEq

/-- The record as it is read. -/
def AnswerRecord.read (r : AnswerRecord) : Answer :=
  ⟨dottedLower r.owner, r.rrType, r.rrClass, r.ttl, r.rdata⟩

/-- The address that is the record's data. -/
def AnswerRecord.address (r : AnswerRecord) : Option IpAddr :=
  if r.rrType = bootstrapDnsTypeA ∧ r.rdata.length = 4 then
    some (.v4 (Vector.ofFn fun i => r.rdata.getD i 0))
  else if r.rrType = bootstrapDnsTypeAaaa ∧ r.rdata.length = 16 then
    some (.v6 (Vector.ofFn fun i => r.rdata.getD i 0))
  else none

/-- The record stands from `off` up to `next`. -/
def AnswerRecord.At (packet : Packet) (r : AnswerRecord) (off next : ℕ) : Prop :=
  ∃ k e, WireName packet k off r.owner e ∧ next = e + 10 + (be16At packet (e + 8)).toNat ∧
    next ≤ packet.length ∧ r.rrType = be16At packet e ∧ r.rrClass = be16At packet (e + 2) ∧
    r.ttl = be32At packet (e + 4) ∧
    r.rdata = (packet.drop (e + 10)).take (be16At packet (e + 8)).toNat

/-- The records stand one after the other from `off` on. -/
def AnswersAt (packet : Packet) : List AnswerRecord → ℕ → Prop
  | [], _ => True
  | r :: rs, off => ∃ next, r.At packet off next ∧ AnswersAt packet rs next

/-- The first question is for the name `question`, and the answer section holds `records`. -/
def AnswerSection (packet : Packet) (question : List (List UInt8)) (records : List AnswerRecord) :
    Prop :=
  ∃ k e off, WireName packet k 12 question e ∧
    skipQuestions packet ((be16At packet 4).toNat - 1) (e + 4) = .ok off ∧
    AnswersAt packet records off ∧ records.length = (be16At packet 6).toNat

/-- The records that are taken: of the class of the Internet and the type asked for, with an address,
and with an owner that reads as the question does. -/
def taken (question : List (List UInt8)) (qtype : UInt16) (records : List AnswerRecord) :
    List AnswerRecord :=
  records.filter fun r => dottedLower r.owner = dottedLower question ∧
    r.rrClass = bootstrapDnsClassIn ∧ r.rrType = qtype ∧ r.address.isSome

/-- The result consists of the addresses of `records`, with the smallest of their TTLs, and these are
records of the host and of the type asked for. -/
structure AnswersHost (host : List Char) (qtype : UInt16) (records : List AnswerRecord)
    (res : BootstrapDnsResult) : Prop where
  addrs : res.addrs.map some = records.map AnswerRecord.address
  minTtlSecs : records ≠ [] → IsLeast {ttl | ∃ r ∈ records, r.ttl = ttl} res.minTtlSecs
  question : ∀ r ∈ records, r.rrClass = bootstrapDnsClassIn ∧ r.rrType = qtype
  owner : ∀ r ∈ records, lowerLabels r.owner = lowerLabels (hostLabels host)

section

variable {packet : Packet} {off next : ℕ}

/-! ### Names as they are read -/

theorem mul_256_add_eq_pointerTarget (high low : UInt8) :
    (high &&& 0x3f).toNat * 256 + low.toNat = pointerTarget high low := by
  rw [pointerTarget, ← Nat.shiftLeft_add_eq_or_of_lt (by simpa using low.toNat_lt),
    Nat.shiftLeft_eq]

/-- The name that has been read so far, with one more label. -/
theorem append_label (done : List (List UInt8)) (label : List UInt8) :
    (if done = [] then [0x2e].intercalate (lowerLabels done)
      else [0x2e].intercalate (lowerLabels done) ++ [0x2e]) ++ label.map toAsciiLowercase =
      [0x2e].intercalate (lowerLabels (done ++ [label])) := by
  rw [lowerLabels, lowerLabels, List.map_append, List.map_singleton, intercalate_concat]
  by_cases h : done = []
  · subst h
    rfl
  · rw [if_neg h, if_neg (by simpa using h)]

/-- **The loop reads labels**, of which `done` have been read before. -/
theorem parseDnsNameLowerLoop_sound : ∀ {fuel cursor nextOffset : ℕ} {jumped : Bool}
    {jumpCount : ℕ} {done : List (List UInt8)} {name : List UInt8} {next : ℕ},
    parseDnsNameLowerLoop packet fuel cursor nextOffset jumped jumpCount (done = [])
      ([0x2e].intercalate (lowerLabels done)) = .ok (name, next) →
    ∃ k labels own, WireName packet k cursor labels own ∧ name = dottedLower (done ++ labels) ∧
      next = if jumped then nextOffset else own := by
  intro fuel
  induction fuel with
  | zero => intro _ _ _ _ _ _ _ h; simp [parseDnsNameLowerLoop] at h
  | succ fuel ih =>
    intro cursor nextOffset jumped jumpCount done name next h
    simp only [parseDnsNameLowerLoop, bind_eq_ok, ensure_eq_ok, index_eq_ok] at h
    obtain ⟨_, hcursor, len, hlen, h⟩ := h
    split at h
    · next hc =>
      simp only [bind_eq_ok, ensure_eq_ok, index_eq_ok] at h
      obtain ⟨_, htwo, low, hlow, _, hptr, _, hjump, h⟩ := h
      rw [mul_256_add_eq_pointerTarget] at h hptr
      obtain ⟨k, labels, own, hwire, hname, hnext⟩ := ih h
      refine ⟨k + 1, labels, cursor + 2, .pointer hlen ((and_c0_eq_c0_iff len).mp hc) hlow hptr
        hwire, hname, ?_⟩
      rw [hnext, if_pos rfl]
    · split at h
      · next hz =>
        split at h
        · next h0 =>
          subst h0
          simp only [pure_eq_ok, Outcome.ok.injEq, Prod.mk.injEq] at h
          obtain ⟨rfl, rfl⟩ := h
          exact ⟨0, [], cursor + 1, .root hlen, by rw [List.append_nil, dottedLower], rfl⟩
        · next h0 =>
          simp only [bind_eq_ok, ensure_eq_ok] at h
          obtain ⟨_, hroom, label, hlabel, h⟩ := h
          rw [slice_pos ⟨by omega, by omega⟩, Outcome.ok.injEq] at hlabel
          have hpos : 0 < len.toNat := Nat.pos_of_ne_zero fun hzero => h0 (UInt8.toNat_inj.mp hzero)
          have hlen' : label.length = len.toNat := by
            rw [← hlabel, List.length_drop, List.length_take]
            omega
          have hpiece : packet.drop (cursor + 1) =
              label ++ packet.drop (cursor + 1 + len.toNat) := by
            rw [← hlabel, List.drop_take, Nat.add_sub_cancel_left]
            exact drop_eq_take_append _ _
          have hmore : decide (done ++ [label] = []) = false := by simp
          simp only [decide_eq_true_eq] at h
          rw [append_label, ← hmore] at h
          obtain ⟨k, labels, own, hwire, hname, hnext⟩ := ih h
          refine ⟨k, label :: labels, own,
            .label hlen hpos ((and_c0_eq_zero_iff len).mp hz) hlen' hpiece hwire, ?_, hnext⟩
          rw [hname, List.append_assoc, List.singleton_append]
      · cases h

/-- **A name is read as its labels** in lower case, joined by dots. -/
theorem parseDnsNameLower_sound {name : List UInt8}
    (h : parseDnsNameLower packet off = .ok (name, next)) :
    ∃ k labels, WireName packet k off labels next ∧ name = dottedLower labels := by
  simp only [parseDnsNameLower, bind_eq_ok] at h
  obtain ⟨_, -, h⟩ := h
  obtain ⟨k, labels, own, hwire, hname, rfl⟩ := parseDnsNameLowerLoop_sound
    (show parseDnsNameLowerLoop packet _ off off false 0 (([] : List (List UInt8)) = [])
      ([0x2e].intercalate (lowerLabels [])) = .ok (name, next) from h)
  exact ⟨k, labels, hwire, hname⟩

/-- **Labels are read by the loop**, if there are not too many pointers between them. -/
theorem parseDnsNameLowerLoop_complete {k : ℕ} {labels : List (List UInt8)}
    (h : WireName packet k off labels next) : ∀ {fuel nextOffset : ℕ} {jumped : Bool}
    {jumpCount : ℕ} {done : List (List UInt8)}, k + labels.length < fuel →
    jumpCount + k ≤ packet.length →
    parseDnsNameLowerLoop packet fuel off nextOffset jumped jumpCount (done = [])
      ([0x2e].intercalate (lowerLabels done)) =
      .ok (dottedLower (done ++ labels), if jumped then nextOffset else next) := by
  induction h with
  | @root off hb =>
    intro fuel nextOffset jumped jumpCount done hfuel _
    have hlt := (List.getElem?_eq_some_iff.mp hb).1
    obtain ⟨fuel, rfl⟩ := Nat.exists_eq_succ_of_ne_zero (show fuel ≠ 0 by omega)
    simp [parseDnsNameLowerLoop, hlt, index_eq_ok.mpr hb, dottedLower]
  | @label k off next len bs labels hb hpos hlt hbs hd h ih =>
    intro fuel nextOffset jumped jumpCount done hfuel hjump
    have hoff := (List.getElem?_eq_some_iff.mp hb).1
    have hle := h.lt_next
    rw [List.length_cons] at hfuel
    obtain ⟨fuel, rfl⟩ := Nat.exists_eq_succ_of_ne_zero (show fuel ≠ 0 by omega)
    have hc : ¬ len &&& 0xc0 = 0xc0 := fun hc => by have := (and_c0_eq_c0_iff len).mp hc; omega
    have hz : len &&& 0xc0 = 0 := (and_c0_eq_zero_iff len).mpr hlt
    have h0 : ¬ len = 0 := by rintro rfl; simp at hpos
    have hroom : ¬ (len.toNat > 63 ∨ packet.length - (off + 1) < len.toNat) := by omega
    have hmore : decide (done ++ [bs] = []) = false := by simp
    have hs := @ih fuel nextOffset jumped jumpCount (done ++ [bs]) (by omega) hjump
    rw [← append_label, hmore, List.append_assoc, List.singleton_append] at hs
    simp only [parseDnsNameLowerLoop, ensure_pos hoff, ok_bind, index_eq_ok.mpr hb, if_neg hc,
      if_pos hz, if_neg h0, ensure_pos hroom, decide_eq_true_eq,
      slice_of_drop (show off + 1 + len.toNat = off + 1 + bs.length by omega) (by omega) hd]
    exact hs
  | @pointer k off next high low labels hb hh hl hptr h ih =>
    intro fuel nextOffset jumped jumpCount done hfuel hjump
    have hoff := (List.getElem?_eq_some_iff.mp hb).1
    have hoff' := (List.getElem?_eq_some_iff.mp hl).1
    obtain ⟨fuel, rfl⟩ := Nat.exists_eq_succ_of_ne_zero (show fuel ≠ 0 by omega)
    have hc : high &&& 0xc0 = 0xc0 := (and_c0_eq_c0_iff high).mpr hh
    have hs := @ih fuel (if jumped then nextOffset else off + 2) true (jumpCount + 1) done
      (by omega) (by omega)
    simp only [parseDnsNameLowerLoop, ensure_pos hoff, ok_bind, index_eq_ok.mpr hb, if_pos hc,
      ensure_pos (show 2 ≤ packet.length - off by omega), index_eq_ok.mpr hl,
      mul_256_add_eq_pointerTarget, ensure_pos hptr,
      ensure_pos (show jumpCount + 1 ≤ packet.length by omega)]
    exact hs

/-! ### Records as they are read -/

theorem readAnswer_sound {a : Answer} (h : readAnswer packet off = .ok (a, next)) :
    ∃ r : AnswerRecord, r.At packet off next ∧ a = r.read := by
  simp only [readAnswer, bind_eq_ok, ensure_eq_ok, Prod.exists, pure_eq_ok, Outcome.ok.injEq,
    Prod.mk.injEq] at h
  obtain ⟨name, e, hname, _, hten, _, hrd, rfl, rfl⟩ := h
  obtain ⟨k, labels, hwire, rfl⟩ := parseDnsNameLower_sound hname
  exact ⟨⟨labels, be16At packet e, be16At packet (e + 2), be32At packet (e + 4), _⟩,
    ⟨k, e, hwire, rfl, by omega, rfl, rfl, rfl, rfl⟩, rfl⟩

theorem readAnswers_sound : ∀ {n off : ℕ} {as : List Answer},
    readAnswers packet n off = .ok as →
      ∃ records, AnswersAt packet records off ∧ records.length = n ∧
        as = records.map AnswerRecord.read := by
  intro n
  induction n with
  | zero =>
    intro off as h
    cases h
    exact ⟨[], trivial, rfl, rfl⟩
  | succ n ih =>
    intro off as h
    simp only [readAnswers, bind_eq_ok, Prod.exists, pure_eq_ok, Outcome.ok.injEq] at h
    obtain ⟨a, next, ha, as', has, rfl⟩ := h
    obtain ⟨r, hr, rfl⟩ := readAnswer_sound ha
    obtain ⟨records, hrecords, hn, rfl⟩ := ih has
    exact ⟨r :: records, ⟨next, hr, hrecords⟩, by rw [List.length_cons, hn], rfl⟩

/-- **A reply is read as its question and its answer records.** -/
theorem readReply_sound {m : Reply} (h : readReply packet = .ok m) :
    ∃ question records, AnswerSection packet question records ∧
      m = ⟨dottedLower question, records.map AnswerRecord.read⟩ := by
  simp only [readReply, bind_eq_ok, ensure_eq_ok, Prod.exists, pure_eq_ok, Outcome.ok.injEq] at h
  obtain ⟨_, -, name, e, hname, _, -, off, hoff, as, has, rfl⟩ := h
  obtain ⟨k, question, hwire, rfl⟩ := parseDnsNameLower_sound hname
  obtain ⟨records, hrecords, hn, rfl⟩ := readAnswers_sound has
  exact ⟨question, records, ⟨k, e, off, hwire, hoff, hrecords, hn⟩, rfl⟩

/-! ### A packet has one answer section -/

theorem AnswerRecord.At.unique {r r' : AnswerRecord} {next' : ℕ} (h : r.At packet off next)
    (h' : r'.At packet off next') : r = r' ∧ next = next' := by
  obtain ⟨owner, _, _, _, _⟩ := r
  obtain ⟨owner', _, _, _, _⟩ := r'
  obtain ⟨k, e, hwire, rfl, -, rfl, rfl, rfl, rfl⟩ := h
  obtain ⟨k', e', hwire', rfl, -, rfl, rfl, rfl, rfl⟩ := h'
  obtain ⟨-, rfl, rfl⟩ := hwire.unique hwire'
  exact ⟨rfl, rfl⟩

theorem AnswersAt.unique : ∀ {rs rs' : List AnswerRecord} {off : ℕ}, AnswersAt packet rs off →
    AnswersAt packet rs' off → rs.length = rs'.length → rs = rs' := by
  intro rs
  induction rs with
  | nil => exact fun _ _ hn => (List.length_eq_zero_iff.mp hn.symm).symm
  | cons r rs ih =>
    intro rs' off h h' hn
    cases rs' with
    | nil => cases hn
    | cons r' rs' =>
      obtain ⟨next, hr, hrs⟩ := h
      obtain ⟨next', hr', hrs'⟩ := h'
      obtain ⟨rfl, rfl⟩ := hr.unique hr'
      rw [ih hrs hrs' (Nat.succ.inj hn)]

/-- **A packet has one first question and one answer section.** -/
theorem AnswerSection.unique {question question' : List (List UInt8)}
    {records records' : List AnswerRecord} (h : AnswerSection packet question records)
    (h' : AnswerSection packet question' records') : question = question' ∧ records = records' := by
  obtain ⟨k, e, off, hwire, hoff, hrs, hn⟩ := h
  obtain ⟨k', e', off', hwire', hoff', hrs', hn'⟩ := h'
  obtain ⟨-, rfl, rfl⟩ := hwire.unique hwire'
  rw [hoff, Outcome.ok.injEq] at hoff'
  subst hoff'
  exact ⟨rfl, hrs.unique hrs' (hn.trans hn'.symm)⟩

/-! ### Labels and the text they make -/

theorem toAsciiLowercase_eq_dot_iff (b : UInt8) : toAsciiLowercase b = 0x2e ↔ b = 0x2e := by
  have h : ∀ n < 256, toAsciiLowercase (UInt8.ofNat n) = 0x2e ↔ UInt8.ofNat n = 0x2e := by
    decide +kernel
  have := h b.toNat b.toNat_lt
  rwa [UInt8.ofNat_toNat] at this

theorem dot_mem_map_iff (label : List UInt8) :
    0x2e ∈ label.map toAsciiLowercase ↔ 0x2e ∈ label := by
  simp only [List.mem_map, toAsciiLowercase_eq_dot_iff, exists_eq_right]

/-- **Labels are told by the text they make**, if there is no dot in them. -/
theorem lowerLabels_eq_iff {owner host : List (List UInt8)} (howner : ∀ label ∈ owner, label ≠ [])
    (hhost : ∀ label ∈ host, label ≠ [] ∧ 0x2e ∉ label) :
    lowerLabels owner = lowerLabels host ↔
      dottedLower owner = dottedLower host ∧ ∀ label ∈ owner, 0x2e ∉ label := by
  have hlower : ∀ {labels : List (List UInt8)}, (∀ label ∈ labels, label ≠ [] ∧ 0x2e ∉ label) →
      ∀ part ∈ lowerLabels labels, part ≠ [] ∧ 0x2e ∉ part := by
    intro labels h part hpart
    obtain ⟨label, hlabel, rfl⟩ := List.mem_map.mp hpart
    rw [dot_mem_map_iff, ne_eq, List.map_eq_nil_iff]
    exact h label hlabel
  constructor
  · intro h
    refine ⟨by rw [dottedLower, h, dottedLower], fun label hlabel hdot => ?_⟩
    have hmem : label.map toAsciiLowercase ∈ lowerLabels host := h ▸ List.mem_map_of_mem hlabel
    exact (hlower hhost _ hmem).2 ((dot_mem_map_iff label).mpr hdot)
  · rintro ⟨h, hdots⟩
    rw [dottedLower, dottedLower, List.append_cancel_right_eq] at h
    exact (intercalate_inj (hlower fun label hl => ⟨howner label hl, hdots label hl⟩)
      (hlower hhost)).mp h

/-! ### The host that is asked for -/

theorem writeLabels_ne_nil : ∀ {labels : List (List Char)} {name : List UInt8},
    writeLabels labels = .ok name → ∀ label ∈ labels, label.flatMap String.utf8EncodeChar ≠ [] := by
  intro labels
  induction labels with
  | nil => exact fun _ _ h => absurd h List.not_mem_nil
  | cons label labels ih =>
    intro name h
    simp only [writeLabels, bind_eq_ok, ensure_eq_ok, not_or] at h
    obtain ⟨_, ⟨hne, -⟩, rest, hrest, -⟩ := h
    exact List.forall_mem_cons.mpr ⟨hne, ih hrest⟩

/-- The labels of a host that a query is built for are not empty, and have no dot in them. -/
theorem hostLabels_fit {queryId qtype : UInt16} {host : List Char} {query : Packet}
    (h : buildBootstrapDnsQuery queryId host qtype = .ok query) :
    ∀ label ∈ hostLabels host, label ≠ [] ∧ 0x2e ∉ label := by
  simp only [buildBootstrapDnsQuery, bind_eq_ok] at h
  obtain ⟨_, -, name, hname, -⟩ := h
  intro label hlabel
  obtain ⟨part, hpart, rfl⟩ := List.mem_map.mp hlabel
  refine ⟨writeLabels_ne_nil hname part hpart, fun hdot => ?_⟩
  obtain ⟨c, hc, hbyte⟩ := List.mem_flatMap.mp hdot
  have hcode : c.toNat = 46 := toNat_of_mem_utf8EncodeChar hbyte (by decide)
  have hchar : c = '.' := Char.toNat_inj.mp hcode
  exact notMem_of_mem_splitOn hpart (hchar ▸ hc)

/-! ### The records that are taken -/

variable {question : List (List UInt8)} {qtype : UInt16} {records : List AnswerRecord}

theorem address_read (r : AnswerRecord) : r.read.address (dottedLower question) qtype =
    if dottedLower r.owner = dottedLower question ∧ r.rrClass = bootstrapDnsClassIn ∧
      r.rrType = qtype then r.address else none := rfl

theorem mem_taken {r : AnswerRecord} : r ∈ taken question qtype records ↔ r ∈ records ∧
    dottedLower r.owner = dottedLower question ∧ r.rrClass = bootstrapDnsClassIn ∧
      r.rrType = qtype ∧ r.address.isSome := by
  rw [taken, List.mem_filter, decide_eq_true_eq]

/-- **The records that answer the question** are those that are taken. -/
theorem addressRecords_read :
    Reply.addressRecords ⟨dottedLower question, records.map AnswerRecord.read⟩ qtype =
      (taken question qtype records).map AnswerRecord.read := by
  rw [Reply.addressRecords, taken, List.filter_map]
  refine congrArg _ (List.filter_congr fun r _ => ?_)
  rw [Function.comp_apply, address_read]
  split
  · next h => simp [h]
  · next h =>
    have hno : ¬ (dottedLower r.owner = dottedLower question ∧ r.rrClass = bootstrapDnsClassIn ∧
        r.rrType = qtype ∧ r.address.isSome) := fun htaken =>
      h ⟨htaken.1, htaken.2.1, htaken.2.2.1⟩
    rw [decide_eq_false hno, Option.isSome_none]

/-- **What a reply comes to**: the addresses of the records that are taken, and the smallest of their
TTLs. -/
theorem result_read {res : BootstrapDnsResult} (h : res =
    Reply.result ⟨dottedLower question, records.map AnswerRecord.read⟩ qtype) :
    res.addrs.map some = (taken question qtype records).map AnswerRecord.address ∧
      (taken question qtype records ≠ [] →
        IsLeast {ttl | ∃ r ∈ taken question qtype records, r.ttl = ttl} res.minTtlSecs) := by
  subst h
  rw [Reply.result, addressRecords_read]
  constructor
  · have haddr : ∀ r ∈ taken question qtype records,
        r.read.address (dottedLower question) qtype = r.address := by
      intro r hr
      obtain ⟨-, howner, hclass, htype, -⟩ := mem_taken.mp hr
      rw [address_read, if_pos ⟨howner, hclass, htype⟩]
    dsimp only
    rw [List.map_filterMap_some_eq_filter_map_isSome, List.map_map, List.filter_eq_self.mpr]
    · exact List.map_congr_left haddr
    · intro addr hmem
      obtain ⟨r, hr, rfl⟩ := List.mem_map.mp hmem
      rw [Function.comp_apply, haddr r hr]
      exact (mem_taken.mp hr).2.2.2.2
  · intro hne
    have hne' : ((taken question qtype records).map AnswerRecord.read).map Answer.ttl ≠ [] := by
      simpa using hne
    obtain ⟨least, ⟨hmem, hle⟩, hmin⟩ := exists_isLeast_foldl_min hne' 0xffffffff
    have htop : min 0xffffffff least = least := by
      have hif : min 0xffffffff least = if 0xffffffff ≤ least then 0xffffffff else least := rfl
      rw [hif]
      split
      · next h =>
        exact UInt32.le_antisymm h (UInt32.le_iff_toNat_le.mpr (Nat.le_of_lt_succ least.toNat_lt))
      · rfl
    have hset : ∀ ttl, ttl ∈ ((taken question qtype records).map AnswerRecord.read).map Answer.ttl ↔
        ∃ r ∈ taken question qtype records, r.ttl = ttl := by
      intro ttl
      simp only [List.map_map, List.mem_map]
      rfl
    dsimp only
    rw [hmin, htop]
    exact ⟨(hset least).mp hmem, fun ttl httl => hle ((hset ttl).mpr httl)⟩

/-- The labels of the owner names are not empty. -/
theorem AnswersAt.owner_ne_nil : ∀ {rs : List AnswerRecord} {off : ℕ}, AnswersAt packet rs off →
    ∀ r ∈ rs, ∀ label ∈ r.owner, label ≠ [] := by
  intro rs
  induction rs with
  | nil => exact fun _ _ h => absurd h List.not_mem_nil
  | cons r rs ih =>
    intro off h
    obtain ⟨next, ⟨k, e, hwire, -⟩, hrs⟩ := h
    refine List.forall_mem_cons.mpr ⟨fun label hlabel => ?_, ih hrs⟩
    exact List.ne_nil_of_length_pos (hwire.labels_fit label hlabel).1

/-- **Whose addresses these are.** The addresses of a reply that is accepted come from records of the
host that was asked for exactly when there are none, or the first question of the reply reads as the
host and no owner among them has a dot inside of a label. -/
theorem parse_answersHost_iff {host : List Char} {queryId : UInt16} {query : Packet}
    {res : BootstrapDnsResult} (hbuild : buildBootstrapDnsQuery queryId host qtype = .ok query)
    (hparse : parseBootstrapDnsResponse packet queryId qtype = .ok res) :
    ∃ question records, AnswerSection packet question records ∧
      (AnswersHost host qtype (taken question qtype records) res ↔
        taken question qtype records = [] ∨
        dottedLower question = dottedLower (hostLabels host) ∧
          ∀ r ∈ taken question qtype records, ∀ label ∈ r.owner, 0x2e ∉ label) := by
  rw [parseBootstrapDnsResponse_eq] at hparse
  simp only [bind_eq_ok, pure_eq_ok, Outcome.ok.injEq] at hparse
  obtain ⟨_, -, _, -, _, -, m, hm, hres⟩ := hparse
  obtain ⟨question, records, hsec, rfl⟩ := readReply_sound hm
  refine ⟨question, records, hsec, ?_⟩
  obtain ⟨haddrs, hleast⟩ := result_read hres.symm
  obtain ⟨_, _, off, -, -, hrecords, -⟩ := hsec
  have hhost := hostLabels_fit hbuild
  -- what it means for one of the records
  have howner : ∀ r ∈ taken question qtype records,
      (lowerLabels r.owner = lowerLabels (hostLabels host) ↔
        dottedLower question = dottedLower (hostLabels host) ∧ ∀ label ∈ r.owner, 0x2e ∉ label) := by
    intro r hr
    obtain ⟨hmem, hname, -⟩ := mem_taken.mp hr
    rw [lowerLabels_eq_iff (hrecords.owner_ne_nil r hmem) hhost, hname]
  constructor
  · intro h
    by_cases hnil : taken question qtype records = []
    · exact .inl hnil
    · obtain ⟨r, hr⟩ := List.exists_mem_of_ne_nil _ hnil
      exact .inr ⟨((howner r hr).mp (h.owner r hr)).1,
        fun r' hr' => ((howner r' hr').mp (h.owner r' hr')).2⟩
  · intro h
    refine ⟨haddrs, hleast, fun r hr => ?_, fun r hr => (howner r hr).mpr ?_⟩
    · obtain ⟨-, -, hclass, htype, -⟩ := mem_taken.mp hr
      exact ⟨hclass, htype⟩
    · rcases h with hnil | ⟨hquestion, hdots⟩
      · rw [hnil] at hr
        exact absurd hr List.not_mem_nil
      · exact ⟨hquestion, hdots r hr⟩

end

/-! ### Two replies -/

/-- A reply with an address of the name in its question, a single letter. -/
def letterReply (letter : UInt8) : Packet :=
  [0x12, 0x34, 0x81, 0x80, 0, 1, 0, 1, 0, 0, 0, 0, 1, letter, 0, 0, 1, 0, 1,
    0xc0, 0x0c, 0, 1, 0, 1, 0, 0, 0, 60, 0, 4, 192, 0, 2, 1]

/-- Its answer record. -/
def letterRecord (letter : UInt8) : AnswerRecord := ⟨[[letter]], 1, 1, 60, [192, 0, 2, 1]⟩

theorem answerSection_letterReply (letter : UInt8) :
    AnswerSection (letterReply letter) [[letter]] [letterRecord letter] := by
  have hname : WireName (letterReply letter) 0 12 [[letter]] 15 :=
    .label rfl (by decide) (by decide) rfl rfl (.root rfl)
  have howner : WireName (letterReply letter) 1 19 [[letter]] 21 :=
    .pointer rfl (by decide) rfl (by decide : pointerTarget 0xc0 0x0c < 35) hname
  have hqd : be16At (letterReply letter) 4 = 1 := (by decide : be16 0 1 = 1)
  have han : be16At (letterReply letter) 6 = 1 := (by decide : be16 0 1 = 1)
  have htype : be16At (letterReply letter) 21 = 1 := (by decide : be16 0 1 = 1)
  have hclass : be16At (letterReply letter) 23 = 1 := (by decide : be16 0 1 = 1)
  have httl : be32At (letterReply letter) 25 = 60 := (by decide : be32 (be16 0 0) (be16 0 60) = 60)
  have hrd : be16At (letterReply letter) 29 = 4 := (by decide : be16 0 4 = 4)
  refine ⟨0, 15, 19, hname, by rw [hqd]; rfl, ⟨35, ⟨1, 21, howner, by rw [hrd]; rfl,
    Nat.le_refl _, htype.symm, hclass.symm, httl.symm, by rw [hrd]; rfl⟩, trivial⟩, by rw [han]; rfl⟩

/-- **A reply for another name is taken**: it answers its own question, and that is all that is looked
at. -/
theorem not_answersHost_letterReply : ¬ ∀ (host : List Char) (queryId qtype : UInt16)
    (query packet : Packet) (res : BootstrapDnsResult),
    buildBootstrapDnsQuery queryId host qtype = .ok query →
    parseBootstrapDnsResponse packet queryId qtype = .ok res →
    ∃ question records, AnswerSection packet question records ∧
      ∃ rs, rs.Sublist records ∧ AnswersHost host qtype rs res := by
  intro h
  obtain ⟨question, records, hsec, rs, hsub, hrs⟩ := h ['a'] 0x1234 bootstrapDnsTypeA
    ([0x12, 0x34, 1, 0, 0, 1, 0, 0, 0, 0, 0, 0, 1, 0x61, 0, 0, 1, 0, 1]) (letterReply 0x62)
    ⟨[.v4 #v[192, 0, 2, 1]], 60⟩ (by decide +kernel) (by decide +kernel)
  obtain ⟨-, rfl⟩ := hsec.unique (answerSection_letterReply 0x62)
  cases rs with
  | nil => exact absurd hrs.addrs (List.cons_ne_nil _ _)
  | cons r rs =>
    obtain rfl := List.mem_singleton.mp (hsub.subset List.mem_cons_self)
    exact absurd (hrs.owner _ List.mem_cons_self) (by decide +kernel)

/-- A reply for the host itself, in the other case, is taken too. -/
theorem parse_answersHost_iff_letterReply :
    AnswersHost ['a'] bootstrapDnsTypeA [letterRecord 0x41] ⟨[.v4 #v[192, 0, 2, 1]], 60⟩ := by
  have hparse : parseBootstrapDnsResponse (letterReply 0x41) 0x1234 bootstrapDnsTypeA =
      .ok ⟨[.v4 #v[192, 0, 2, 1]], 60⟩ := by decide +kernel
  obtain ⟨question, records, hsec, hiff⟩ := parse_answersHost_iff
    (show buildBootstrapDnsQuery 0x1234 ['a'] bootstrapDnsTypeA =
      .ok [0x12, 0x34, 1, 0, 0, 1, 0, 0, 0, 0, 0, 0, 1, 0x61, 0, 0, 1, 0, 1] by decide +kernel)
    hparse
  obtain ⟨rfl, rfl⟩ := hsec.unique (answerSection_letterReply 0x41)
  have htaken : taken [[0x41]] bootstrapDnsTypeA [letterRecord 0x41] = [letterRecord 0x41] := by
    decide +kernel
  rw [htaken] at hiff
  exact hiff.mpr (.inr ⟨by decide +kernel, by simp [letterRecord]⟩)

end DohProxy.Bootstrap
