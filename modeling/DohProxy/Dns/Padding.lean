import DohProxy.Dns.Edns

/-!
# Padding a response

`add_edns_padding` lengthens the OPT record by a padding option: it adds to RDLENGTH
where the OPT record stands, and appends the option's bytes at the end of the packet.
The two places are the same only when the OPT record is the last record.

## What is proved

* `addEdnsPadding_eq_ok` — what a successful call leaves, on a packet that segments to
  its end: the OPT record there was or the one it added, its RDLENGTH, and the option
  after everything.
* `padded_iff` — the result is the same message with its OPT record's RDATA one padding
  option longer **exactly when** the message has no OPT record, or what follows its OPT
  record is made of copies of the option that is appended (none, when it is last).
  `padding_misplaced` is a response with another record after its OPT record.
-/

namespace DohProxy.Dns

open Lib Outcome

/-- A padding option with the given contents. -/
def paddingOption (body : List UInt8) : List UInt8 :=
  u16Bytes dnsPtypePadding ++ (u16Bytes (UInt16.ofNat body.length) ++ body)

theorem ednsPaddingPrr_eq (n : ℕ) : ednsPaddingPrr n = paddingOption (List.replicate n 88) := by
  simp [ednsPaddingPrr, paddingOption]

theorem length_paddingOption (body : List UInt8) :
    (paddingOption body).length = 4 + body.length := by
  simp [paddingOption]; omega

@[simp] theorem length_ednsPaddingPrr (n : ℕ) : (ednsPaddingPrr n).length = 4 + n := by
  rw [ednsPaddingPrr_eq, length_paddingOption, List.length_replicate]

/-- The padding a packet of the given length gets. -/
def paddingOf (packetLen : ℕ) : List UInt8 := ednsPaddingPrr (paddedLen packetLen - packetLen)

/-! ### Finding the OPT record -/

/-- The number of OPT records. -/
def optCount (rs : List Record) : ℕ := rs.countP fun r => r.rtype = dnsTypeOpt

theorem optCount_cons (r : Record) (rs : List Record) :
    optCount (r :: rs) = optCount rs + if r.rtype = dnsTypeOpt then 1 else 0 := by
  simp [optCount, List.countP_cons]

@[simp] theorem optCount_append (rs₁ rs₂ : List Record) :
    optCount (rs₁ ++ rs₂) = optCount rs₁ + optCount rs₂ := List.countP_append

theorem optCount_eq_zero_iff {rs : List Record} :
    optCount rs = 0 ↔ ∀ r ∈ rs, r.rtype ≠ dnsTypeOpt := by
  simp [optCount, List.countP_eq_zero]

/-- One OPT record splits the records in two. -/
theorem exists_split_of_optCount {rs : List Record} (h : optCount rs = 1) :
    ∃ before opt after, rs = before ++ opt :: after ∧ opt.rtype = dnsTypeOpt ∧
      ∀ r ∈ before ++ after, r.rtype ≠ dnsTypeOpt := by
  obtain ⟨opt, hmem, hopt⟩ := List.countP_pos_iff.mp (show 0 < optCount rs by omega)
  rw [decide_eq_true_eq] at hopt
  obtain ⟨before, after, rfl⟩ := List.append_of_mem hmem
  rw [optCount_append, optCount_cons, if_pos hopt] at h
  exact ⟨before, opt, after, rfl, hopt, optCount_eq_zero_iff.mp (by rw [optCount_append]; omega)⟩

theorem optCount_split {before after : List Record} {opt : Record} (hopt : opt.rtype = dnsTypeOpt)
    (hno : ∀ r ∈ before ++ after, r.rtype ≠ dnsTypeOpt) :
    optCount (before ++ opt :: after) = 1 := by
  have h := optCount_eq_zero_iff.mpr hno
  rw [optCount_append] at h
  rw [optCount_append, optCount_cons, if_pos hopt]
  omega

/-- Where the fields of the first OPT record stand. -/
def optOffset : List Record → ℕ → Option ℕ
  | [], _ => none
  | r :: rs, off =>
    if r.rtype = dnsTypeOpt then some (off + r.name.bytes.length)
    else optOffset rs (off + r.bytes.length)

theorem optOffset_of_none {rs : List Record} (h : ∀ r ∈ rs, r.rtype ≠ dnsTypeOpt) (off : ℕ) :
    optOffset rs off = none := by
  induction rs generalizing off with
  | nil => rfl
  | cons r rs ih =>
    rw [List.forall_mem_cons] at h
    rw [optOffset, if_neg h.1, ih h.2]

theorem optOffset_split {before after : List Record} {opt : Record} (hopt : opt.rtype = dnsTypeOpt)
    (hno : ∀ r ∈ before, r.rtype ≠ dnsTypeOpt) (off : ℕ) :
    optOffset (before ++ opt :: after) off =
      some (off + (recordsBytes before).length + opt.name.bytes.length) := by
  induction before generalizing off with
  | nil => rw [List.nil_append, optOffset, if_pos hopt, recordsBytes_nil, List.length_nil,
      Nat.add_zero]
  | cons r rs ih =>
    rw [List.forall_mem_cons] at hno
    rw [List.cons_append, optOffset, if_neg hno.1, ih hno.2, recordsBytes_cons, List.length_append,
      Nat.add_assoc off]

section

variable {packet : Packet} {rest : List UInt8}

theorem findOpt_behind {r : Record} {e : ℕ} (hd : packet.drop e = r.fields ++ rest) (s : Option ℕ) :
    findOpt packet e s = if r.rtype = dnsTypeOpt then
      (ensure (s = none) "Duplicate OPT RR found" >>= fun _ => .ok (some e)) else .ok s := by
  rw [Record.fields, List.append_assoc] at hd
  rw [findOpt, readU16_of_drop hd]
  rfl

/-- After an OPT record the search goes over others only. -/
theorem foldOffsets_findOpt_some : ∀ {rs : List Record} {off e : ℕ} {rest : List UInt8},
    packet.drop off = recordsBytes rs ++ rest →
      foldOffsets (findOpt packet) rs off (some e) =
        if optCount rs = 0 then .ok (some e) else .err "Duplicate OPT RR found" := by
  intro rs
  induction rs with
  | nil => exact fun _ => rfl
  | cons r rs ih =>
    intro off e rest hd
    rw [recordsBytes_cons, List.append_assoc] at hd
    have hf := hd
    rw [Record.bytes, List.append_assoc] at hf
    rw [foldOffsets, findOpt_behind (drop_of_drop _ hf), optCount_cons]
    by_cases hopt : r.rtype = dnsTypeOpt
    · rw [if_pos hopt, if_pos hopt, ensure_neg (by simp), if_neg (by omega)]
      rfl
    · rw [if_neg hopt, if_neg hopt, ok_bind, ih (drop_of_drop _ hd)]
      rfl

/-- **The search** finds where the one OPT record stands, and fails when there are two. -/
theorem foldOffsets_findOpt : ∀ {rs : List Record} {off : ℕ} {rest : List UInt8},
    packet.drop off = recordsBytes rs ++ rest →
      foldOffsets (findOpt packet) rs off none =
        if optCount rs ≤ 1 then .ok (optOffset rs off) else .err "Duplicate OPT RR found" := by
  intro rs
  induction rs with
  | nil => exact fun _ => rfl
  | cons r rs ih =>
    intro off rest hd
    rw [recordsBytes_cons, List.append_assoc] at hd
    have hf := hd
    rw [Record.bytes, List.append_assoc] at hf
    rw [foldOffsets, findOpt_behind (drop_of_drop _ hf), optCount_cons, optOffset]
    by_cases hopt : r.rtype = dnsTypeOpt
    · rw [if_pos hopt, if_pos hopt, if_pos hopt, ensure_pos rfl, ok_bind, ok_bind,
        foldOffsets_findOpt_some (drop_of_drop _ hd)]
      exact if_congr (by omega) rfl rfl
    · rw [if_neg hopt, if_neg hopt, if_neg hopt, ok_bind, ih (drop_of_drop _ hd)]
      rfl

end

/-! ### Patching RDLENGTH and appending -/

section

variable {packet : Packet} {e : ℕ}

/-- A packet is not longer than what it is padded to. -/
theorem le_paddedLen {n : ℕ} (h : n ≤ 4096) : n ≤ paddedLen n := by
  unfold paddedLen
  cases hb : paddingBoundaries.find? fun boundary => n ≤ boundary with
  | none => exact h
  | some b => simpa using List.find?_some hb

/-- **What `padAt` does**: its checks come before its writes. -/
theorem padAt_apply (he : e + 10 ≤ packet.length) (hmax : packet.length ≤ 4096) :
    padAt packet.length e packet =
      if e + (be16At packet (e + 8)).toNat ≤ packet.length then
        if (be16At packet (e + 8)).toNat + (paddingOf packet.length).length < 65536 then
          if packet.length + (paddingOf packet.length).length ≤ 4096 then
            (.ok (), setU16 packet (e + 8) (be16At packet (e + 8) +
              UInt16.ofNat (paddingOf packet.length).length) ++ paddingOf packet.length)
          else (.err "Large packet", packet)
        else (.err "EDNS section too large for padding", packet)
      else (.err "Out of range EDNS size", packet) := by
  have hlt := (be16At packet (e + 8)).toNat_lt
  unfold paddingOf
  simp only [padAt, Proc.bind_apply, Proc.lift_apply, usub_pos (le_paddedLen hmax), Proc.next_ok]
  generalize ednsPaddingPrr (paddedLen packet.length - packet.length) = prr
  simp only [Proc.bind_apply, Proc.lift_apply, Proc.reads_apply, dnsMaxPacketSize, Proc.next_ok,
    usub_pos (show e + 8 ≤ packet.length by omega),
    ensure_pos (show packet.length - (e + 8) ≥ 2 by omega),
    readU16_pos (show e + 8 + 2 ≤ packet.length by omega)]
  by_cases hrange : e + (be16At packet (e + 8)).toNat ≤ packet.length
  · rw [if_pos hrange]
    simp only [Proc.bind_apply, Proc.lift_apply, ensure_pos hrange, Proc.next_ok,
      usub_pos (show (be16At packet (e + 8)).toNat ≤ 65535 by omega)]
    by_cases hfit : (be16At packet (e + 8)).toNat + prr.length < 65536
    · have hfit' : 65535 - (be16At packet (e + 8)).toNat ≥ prr.length := by omega
      rw [if_pos hfit]
      simp only [Proc.bind_apply, Proc.lift_apply, ensure_pos hfit', Proc.next_ok,
        usub_pos hmax]
      by_cases hroom : packet.length + prr.length ≤ 4096
      · have hroom' : 4096 - packet.length ≥ prr.length := by omega
        have hadd : (uadd16 (be16At packet (e + 8)) (UInt16.ofNat prr.length) :
            Outcome Error UInt16) = .ok (be16At packet (e + 8) + UInt16.ofNat prr.length) := by
          rw [uadd16_eq_ok, toNat_ofNat_count (by omega)]
          exact ⟨hfit, rfl⟩
        rw [if_pos hroom]
        simp only [Proc.bind_apply, Proc.lift_apply, Proc.modifies_apply, ensure_pos hroom',
          Proc.next_ok, hadd,
          writeU16_pos (show e + 8 + 2 ≤ packet.length by omega)]
        rfl
      · have hroom' : ¬ 4096 - packet.length ≥ prr.length := by omega
        rw [if_neg hroom]
        simp only [ensure_neg hroom', Proc.next_err]
    · have hfit' : ¬ 65535 - (be16At packet (e + 8)).toNat ≥ prr.length := by omega
      rw [if_neg hfit]
      simp only [ensure_neg hfit', Proc.next_err]
  · rw [if_neg hrange]
    simp only [ensure_neg hrange, Proc.next_err]

/-- What it leaves when its checks pass. -/
theorem padAt_eq_ok {packet' : Packet} (he : e + 10 ≤ packet.length) (hmax : packet.length ≤ 4096)
    (h : padAt packet.length e packet = (.ok (), packet')) :
    packet' = setU16 packet (e + 8) (be16At packet (e + 8) + UInt16.ofNat
      (paddingOf packet.length).length) ++ paddingOf packet.length ∧
      (be16At packet (e + 8)).toNat + (paddingOf packet.length).length < 65536 := by
  rw [padAt_apply he hmax] at h
  split at h
  · split at h
    · next hfit =>
      split at h
      · exact ⟨(Prod.mk.inj h).2.symm, hfit⟩
      · simp at h
    · simp at h
  · simp at h

end

/-! ### Copies of the option -/

/-- A word that the padding option can be moved across is made of copies of the option:
the option is no rotation of itself, since only its first byte is `0` with a `12` after. -/
theorem copies_of_shift {body : List UInt8} : ∀ {rest : List UInt8},
    rest ++ ednsPaddingPrr body.length = paddingOption body ++ rest →
      ∃ k, rest = (List.replicate k (ednsPaddingPrr body.length)).flatten := by
  intro rest h
  rcases List.append_eq_append_iff.mp h with ⟨z, hu, hp⟩ | ⟨rest', hr, hr'⟩
  · -- `rest` is shorter than the option: then it is empty or the option itself
    rw [ednsPaddingPrr] at hp
    rw [paddingOption] at hu
    have hh : hi dnsPtypePadding = 0 := by decide
    have hl : lo dnsPtypePadding = 12 := by decide
    simp only [u16Bytes, hh, hl, List.cons_append, List.nil_append] at hu hp
    rcases z with _ | ⟨z₀, _ | ⟨z₁, _ | ⟨z₂, _ | ⟨z₃, z⟩⟩⟩⟩
    · exact ⟨1, by simp [ednsPaddingPrr, u16Bytes, hh, hl, hp]⟩
    · -- the option would start with its second byte
      obtain ⟨-, rfl⟩ := List.cons_eq_cons.mp hp
      simp at hu
    · simp only [List.cons_append, List.nil_append, List.cons.injEq] at hp
      obtain ⟨-, -, rfl⟩ := hp
      cases body with
      | nil => simp [lo] at hu
      | cons b body =>
        simp only [List.length_cons, List.replicate_succ, List.cons_append, List.cons.injEq] at hu
        exact absurd (hu.1.trans hu.2.2.1) (by decide)
    · simp only [List.cons_append, List.nil_append, List.cons.injEq] at hp
      obtain ⟨rfl, -, -, rfl⟩ := hp
      cases body with
      | nil => simp at hu
      | cons b body => simp [List.replicate_succ] at hu
    · simp only [List.cons_append, List.cons.injEq] at hp
      cases rest with
      | nil => exact ⟨0, rfl⟩
      | cons r rest =>
        have hr : r ∈ List.replicate body.length (88 : UInt8) := by rw [hp.2.2.2.2]; simp
        have := List.eq_of_mem_replicate hr
        simp_all
  · -- `rest` starts with an option
    have hlt : rest'.length < rest.length := by
      rw [hr, List.length_append, length_paddingOption]; omega
    obtain ⟨k, hk⟩ := copies_of_shift (hr'.symm.trans hr)
    refine ⟨k + 1, ?_⟩
    rw [hr', hk, List.replicate_succ', List.flatten_append]
    simp
termination_by rest => rest.length

/-! ### The result -/

/-- What stands in the packet before the RDLENGTH of a record of the additional section. -/
def Message.upTo (m : Message) (before : List Record) (opt : Record) : List UInt8 :=
  m.header ++ (m.question.bytes ++ (recordsBytes m.answers ++ (recordsBytes m.authorities ++
    (recordsBytes before ++ opt.head))))

theorem Message.bytes_around {m : Message} {before after : List Record} {opt : Record}
    (h : m.additionals = before ++ opt :: after) :
    m.bytes = m.upTo before opt ++ (u16Bytes (UInt16.ofNat opt.rdata.length) ++
      (opt.rdata ++ recordsBytes after)) := by
  simp only [Message.bytes, Message.upTo, h, recordsBytes_append,
    recordsBytes_cons, opt.bytes_eq_head,
    List.append_assoc]

theorem Message.length_upTo (m : Message) (before : List Record) (opt : Record) :
    (m.upTo before opt).length = m.additionalStart +
      (recordsBytes before).length + opt.name.bytes.length + 8 := by
  simp only [Message.upTo, Message.additionalStart, List.length_append, m.length_header,
    opt.length_head]
  omega

/-- The packet with the OPT record's RDLENGTH raised and the option at the end. -/
def Message.padded (m : Message) (before : List Record) (opt : Record)
    (after : List Record) : Packet :=
  m.upTo before opt ++ (u16Bytes (UInt16.ofNat
    (opt.rdata.length + (paddingOf m.bytes.length).length)) ++
    (opt.rdata ++ (recordsBytes after ++ paddingOf m.bytes.length)))

/-- **Padding at an OPT record** of the additional section. -/
theorem padAt_record {m : Message} {before after : List Record} {opt : Record} {packet' : Packet}
    (hm : m.additionals = before ++ opt :: after) (hmax : m.bytes.length ≤ 4096)
    (h : padAt m.bytes.length (m.additionalStart +
      (recordsBytes before).length + opt.name.bytes.length) m.bytes =
      (.ok (), packet')) :
    packet' = m.padded before opt after ∧
      opt.rdata.length + (paddingOf m.bytes.length).length < 65536 := by
  have hb := Message.bytes_around hm
  have hu := m.length_upTo before opt
  have hlen := congrArg List.length hb
  have hr : be16At m.bytes (m.additionalStart +
    (recordsBytes before).length + opt.name.bytes.length + 8) =
      UInt16.ofNat opt.rdata.length := by
    rw [← hu, hb, ← Nat.add_zero (m.upTo before opt).length, be16At_append_right, be16At_u16Bytes]
  simp only [List.length_append, length_u16Bytes, hu] at hlen
  obtain ⟨hp, hfit⟩ := padAt_eq_ok (by omega) hmax h
  rw [hr, opt.toNat_rdlength] at hfit
  refine ⟨?_, hfit⟩
  rw [hp, hr, ← UInt16.ofNat_add, Message.padded]
  generalize paddingOf m.bytes.length = prr
  rw [hb, setU16_append hu.symm, List.append_assoc, List.append_assoc, List.append_assoc]

/-- **What a successful call leaves**: the OPT record there was, or the one it added, with its
RDLENGTH raised, and the option at the end of the packet. -/
theorem addEdnsPadding_eq_ok {m : Message} {packet' : Packet}
    (h : addEdnsPadding m.bytes = (.ok (), packet')) :
    (∃ before opt after, m.additionals = before ++ opt :: after ∧ opt.rtype = dnsTypeOpt ∧
      (∀ r ∈ before ++ after, r.rtype ≠ dnsTypeOpt) ∧ packet' = m.padded before opt after ∧
      opt.rdata.length + (paddingOf m.bytes.length).length < 65536) ∨
    ((∀ r ∈ m.additionals, r.rtype ≠ dnsTypeOpt) ∧ ∃ hc, packet' =
      (m.push (optRecord 4096) hc).padded m.additionals (optRecord 4096) [] ∧
      (paddingOf (m.push (optRecord 4096) hc).bytes.length).length < 65536) := by
  simp only [addEdnsPadding, Proc.reads_bind_eq_ok, Outcome.ok.injEq] at h
  obtain ⟨_, rfl, off, hoff, ar, har, h⟩ := h
  have hlen : m.bytes.length ≤ 4096 := by
    simp only [additionalOffset, bind_eq_ok, ensure_eq_ok] at hoff
    obtain ⟨_, -, _, h, -⟩ := hoff
    exact h
  rw [additionalOffset_bytes m hlen, Outcome.ok.injEq] at hoff
  rw [m.arcount_bytes, Outcome.ok.injEq] at har
  subst hoff har
  have hd : m.bytes.drop m.additionalStart = recordsBytes m.additionals ++ [] := by
    rw [m.drop_additionalStart, List.append_nil]
  rw [Proc.bind_eq_ok, traverseRrsMut_reads, toNat_ofNat_count m.counts.2.2] at h
  obtain ⟨⟨off, found⟩, p, ht, h⟩ := h
  rw [traverseRrs_records _ hd, Prod.mk.injEq, bind_eq_ok] at ht
  obtain ⟨⟨s, hs, hoff⟩, rfl⟩ := ht
  simp only [Outcome.ok.injEq, Prod.mk.injEq] at hoff
  obtain ⟨-, rfl⟩ := hoff
  rw [foldOffsets_findOpt hd] at hs
  split at hs
  · next hcount =>
    rw [Outcome.ok.injEq] at hs
    subst hs
    rcases Nat.le_one_iff_eq_zero_or_eq_one.mp hcount with hzero | hone
    · right
      have hno := optCount_eq_zero_iff.mp hzero
      simp only [optOffset_of_none hno, Proc.bind_eq_ok (m := addEdnsSection _),
        Proc.reads_bind_eq_ok, Outcome.ok.injEq] at h
      obtain ⟨_, p₁, hadd, _, rfl, h⟩ := h
      obtain ⟨hc, rfl, hroom⟩ := addEdnsSection_eq_ok hlen hadd
      have hm : (m.push (optRecord 4096) hc).additionals = m.additionals ++
        optRecord 4096 :: [] := rfl
      have he : m.bytes.length + 1 = (m.push (optRecord 4096) hc).additionalStart +
          (recordsBytes m.additionals).length + (optRecord 4096).name.bytes.length := by
        rw [m.length_bytes_eq]; rfl
      rw [he] at h
      obtain ⟨hp, hfit⟩ := padAt_record hm (by rw [m.length_push_opt]; omega) h
      exact ⟨hno, hc, hp, lt_of_le_of_lt (Nat.le_add_left _ _) hfit⟩
    · left
      obtain ⟨before, opt, after, hm, hopt, hno⟩ := exists_split_of_optCount hone
      rw [hm, optOffset_split hopt fun r hr => hno r (List.mem_append_left _ hr)] at h
      obtain ⟨hp, hfit⟩ := padAt_record hm hlen h
      exact ⟨before, opt, after, hm, hopt, hno, hp, hfit⟩
  · cases hs

/-! ### When the result is the message padded -/

/-- `r'` is `r` with `extra` after its RDATA. -/
def Record.Extends (r r' : Record) (extra : List UInt8) : Prop :=
  r'.name = r.name ∧ r'.rtype = r.rtype ∧ r'.rclass = r.rclass ∧ r'.ttl = r.ttl ∧
    r'.rdata = r.rdata ++ extra

/-- **`m'` is `m` padded**: the same question and the same records, except that the OPT record
of the additional section has one padding option more, or that, where there was none, an OPT
record holding just a padding option is appended (and so ARCOUNT is one larger). -/
def Padded (m m' : Message) : Prop :=
  m'.question = m.question ∧ m'.answers = m.answers ∧ m'.authorities = m.authorities ∧ ∃ body,
    (∃ before opt after opt', m.additionals = before ++ opt :: after ∧ opt.rtype = dnsTypeOpt ∧
      m'.additionals = before ++ opt' :: after ∧ opt.Extends opt' (paddingOption body)) ∨
    ((∀ r ∈ m.additionals, r.rtype ≠ dnsTypeOpt) ∧
      ∃ opt', m'.additionals = m.additionals ++ [opt'] ∧
      opt'.rtype = dnsTypeOpt ∧ opt'.rdata = paddingOption body)

/-- What follows the OPT record of the additional section is made of copies of the padding
option that the packet gets. In particular it may be nothing. -/
def OptClosed (m : Message) : Prop :=
  ∀ before opt after, m.additionals = before ++ opt :: after → opt.rtype = dnsTypeOpt →
    ∃ k, recordsBytes after = (List.replicate k (paddingOf m.bytes.length)).flatten

/-- A list with one element of a kind splits at it in one way. -/
theorem append_cons_inj_of_forall_not {α : Type} {P : α → Prop} {l₁ l₂ : List α} {a : α}
    (h₁ : ∀ x ∈ l₁ ++ l₂, ¬ P x) : ∀ {r₁ r₂ : List α} {b : α}, P b → l₁ ++ a :: l₂ = r₁ ++ b :: r₂ →
      l₁ = r₁ ∧ a = b ∧ l₂ = r₂ := by
  intro r₁ r₂ b hb h
  -- one of the two splits is after the other one, and not strictly
  rcases List.append_eq_append_iff.mp h with ⟨c, rfl, hc⟩ | ⟨c, rfl, hc⟩ <;> cases c
  case inl.nil | inr.nil =>
    simp only [List.nil_append, List.cons.injEq] at hc
    simp [hc]
  case inl.cons | inr.cons =>
    simp only [List.cons_append, List.cons.injEq] at hc
    exact absurd hb (h₁ b (by simp [hc]))

theorem flatten_replicate_comm {α : Type} (w : List α) (k : ℕ) :
    (List.replicate k w).flatten ++ w = w ++ (List.replicate k w).flatten := by
  induction k with
  | zero => simp
  | succ k ih => rw [List.replicate_succ, List.flatten_cons, List.append_assoc, ih]

/-- The message with more RDATA in an additional record. -/
def Message.extend (m : Message) {before after : List Record} {opt : Record}
    (extra : List UInt8) (h : m.additionals = before ++ opt :: after)
    (hfit : (opt.rdata ++ extra).length < 65536) : Message :=
  { m with
    additionals := before ++ { opt with rdata := opt.rdata ++ extra, fits := hfit } :: after
    counts := by simpa [h] using m.counts }

theorem Message.extend_bytes {m : Message} {before after : List Record} {opt : Record}
    {extra : List UInt8} (h : m.additionals = before ++ opt :: after)
    (hfit : (opt.rdata ++ extra).length < 65536) :
    (m.extend extra h hfit).bytes = m.upTo before opt ++
      (u16Bytes (UInt16.ofNat (opt.rdata.length + extra.length)) ++
        (opt.rdata ++ (extra ++ recordsBytes after))) := by
  have hu : (m.extend extra h hfit).upTo before { opt with
      rdata := opt.rdata ++ extra, fits := hfit } = m.upTo before opt := by
    simp only [Message.upTo, Message.header, Message.extend, Record.head, h, List.length_append,
      List.length_cons]
  rw [Message.bytes_around (m := m.extend extra h hfit) rfl, hu, List.length_append,
    List.append_assoc]

/-- Where the option can be moved after the OPT record's RDATA, the packet is a message. -/
theorem exists_padded {m : Message} {before after : List Record} {opt : Record}
    (hm : m.additionals = before ++ opt :: after)
    (hfit : opt.rdata.length + (paddingOf m.bytes.length).length < 65536)
    (hcomm : recordsBytes after ++ paddingOf m.bytes.length = paddingOf m.bytes.length ++
      recordsBytes after) :
    ∃ m' : Message, ∃ opt' : Record, m'.bytes = m.padded before opt after ∧
      m'.question = m.question ∧ m'.answers = m.answers ∧ m'.authorities = m.authorities ∧
      m'.additionals = before ++ opt' :: after ∧
      opt.Extends opt' (paddingOf m.bytes.length) := by
  have hfit' : (opt.rdata ++ paddingOf m.bytes.length).length < 65536 := by
    rwa [List.length_append]
  refine ⟨m.extend _ hm hfit', _, ?_, rfl, rfl, rfl, rfl, rfl, rfl, rfl, rfl, rfl⟩
  rw [Message.extend_bytes, Message.padded, hcomm]

/-- **When padding gives the padded message.** For a packet that segments to its end as `m`
and that `add_edns_padding` pads, the result segments to its end as `m` padded exactly when
what follows the OPT record is made of copies of the appended option. -/
theorem padded_iff {packet packet' : Packet} {m : Message} (hm : segment packet = .ok m)
    (h : addEdnsPadding packet = (.ok (), packet')) :
    (∃ m', segment packet' = .ok m' ∧ Padded m m') ↔ OptClosed m := by
  rw [segment_eq_ok_iff] at hm
  subst hm
  simp only [segment_eq_ok_iff]
  rcases addEdnsPadding_eq_ok h with ⟨before, opt, after, hm, hopt, hno, rfl,
    hfit⟩ | ⟨hno, hc, rfl, hfit⟩
  · constructor
    · rintro ⟨m', hb, hq, ha, hau, body, hpad⟩ before₁ opt₁ after₁ hm₁ hopt₁
      obtain ⟨rfl, rfl, rfl⟩ := append_cons_inj_of_forall_not hno hopt₁ (hm.symm.trans hm₁)
      rcases hpad with ⟨before₂, opt₂, after₂, opt', hm₂, hopt₂, hm', hn, ht, hcl, httl,
        hrd⟩ | ⟨hno', -⟩
      · obtain ⟨rfl, rfl, rfl⟩ := append_cons_inj_of_forall_not hno hopt₂ (hm.symm.trans hm₂)
        -- the same bytes, cut before and after RDLENGTH
        have hlen : (m'.upTo before opt').length = (m.upTo before opt).length := by
          simp only [Message.length_upTo, Message.additionalStart, hq, ha, hau, hn]
        rw [Message.bytes_around hm', Message.padded] at hb
        obtain ⟨-, hb⟩ := List.append_inj hb hlen
        obtain ⟨-, hb⟩ := List.append_inj hb (by simp)
        rw [hrd, List.append_assoc, List.append_cancel_left_eq] at hb
        have hbody : body.length = paddedLen m.bytes.length - m.bytes.length := by
          have := congrArg List.length hb
          simp only [List.length_append, paddingOf, length_paddingOption,
            length_ednsPaddingPrr] at this
          omega
        rw [paddingOf, ← hbody] at hb ⊢
        exact copies_of_shift hb.symm
      · exact absurd hopt (hno' opt (by simp [hm]))
    · intro hcl
      obtain ⟨k, hk⟩ := hcl before opt after hm hopt
      obtain ⟨m', opt', hb, hq, ha, hau, hm', hext⟩ :=
        exists_padded hm hfit (by rw [hk, flatten_replicate_comm])
      rw [paddingOf, ednsPaddingPrr_eq] at hext
      exact ⟨m', hb, hq, ha, hau, _, .inl ⟨before, opt, after, opt', hm, hopt, hm', hext⟩⟩
  · constructor
    · rintro - before opt after hm hopt
      exact absurd hopt (hno opt (by simp [hm]))
    · intro _
      obtain ⟨m', opt', hb, hq, ha, hau, hm', -, ht, -, -, hrd⟩ :=
        exists_padded (show (m.push (optRecord 4096) hc).additionals = m.additionals ++
          optRecord 4096 :: [] from rfl)
          (by simpa [optRecord] using hfit) (by simp)
      rw [paddingOf, ednsPaddingPrr_eq] at hrd
      exact ⟨m', hb, hq, ha, hau, _, .inr ⟨hno, opt', hm', ht, hrd⟩⟩

/-- An A record of the root. -/
def rootA : Record where
  name := (optRecord 4096).name
  rtype := 1
  rclass := 1
  ttl := 0
  rdata := [1, 2, 3, 4]
  fits := by decide

/-- With the OPT record last, the query is padded. -/
theorem padded_iff_opt_last :
    ∃ m, segment (rootQuery [rootA, optRecord 1232] (by decide)).bytes = .ok m ∧ ∃ m',
      segment (addEdnsPadding (rootQuery [rootA, optRecord 1232] (by decide)).bytes).2 = .ok m' ∧
        Padded m m' := by
  refine ⟨_, segment_eq_ok_iff.mpr rfl, ?_⟩
  refine (padded_iff (m := rootQuery [rootA, optRecord 1232] (by decide))
    (segment_eq_ok_iff.mpr rfl)
    (by decide +kernel)).mpr ?_
  intro before opt after h hopt
  have h' : [rootA] ++ optRecord 1232 :: [] = before ++ opt :: after := h
  obtain ⟨-, -, rfl⟩ := append_cons_inj_of_forall_not (P := fun r : Record => r.rtype = dnsTypeOpt)
    (by decide) hopt h'
  exact ⟨0, rfl⟩

/-- **The option can land in another record**: after the OPT record stands an A record. The
OPT record's RDLENGTH then covers that record instead of the option, and the result does not
hold the two records that ARCOUNT announces. -/
theorem padding_misplaced :
    ∃ packet packet' m, segment packet = .ok m ∧ addEdnsPadding packet = (.ok (), packet') ∧
      ¬ ∃ m', segment packet' = .ok m' ∧ Padded m m' := by
  have hpad : addEdnsPadding (rootQuery [optRecord 1232, rootA] (by decide)).bytes =
      (.ok (), (addEdnsPadding (rootQuery [optRecord 1232, rootA] (by decide)).bytes).2) := by
        decide +kernel
  have hseg : segment (addEdnsPadding (rootQuery [optRecord 1232, rootA] (by decide)).bytes).2 =
      .err "Long label" := by decide +kernel
  refine ⟨_, _, _, segment_eq_ok_iff.mpr rfl, hpad, ?_⟩
  rintro ⟨m', hm', -⟩
  rw [hseg] at hm'
  exact absurd hm' (by simp)

end DohProxy.Dns
