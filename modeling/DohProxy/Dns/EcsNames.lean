import DohProxy.Dns.EcsOptions
import DohProxy.Upstream.Moved

/-!
# The client subnet option and the names of a query

`add_ecs_to_packet` puts its option at the end of the OPT record's RDATA. What stands after that
moves, and no compression pointer is set anew: one that leads beyond the OPT record misses its label
afterwards.

## The model

`RootOptAt` says where the search for the OPT record ends. `PointsBehind` is a query that gets the
option and has a compression pointer that leads beyond the OPT record. `OptSplit` is a query cut at
that record, as the parser of the upstream layer reads it.

## What is proved

* `ecsTarget_eq_some_iff` — which queries get the option, and where.
* `addEcsToPacket_names` — **the names stay as they are** in every query whose pointers lead to
  labels, none of them after the OPT record; a pointer beyond it misses its label.
* `pointerQuery_misread` — a query with such a pointer, whose last name becomes the root's.
-/

namespace DohProxy.Dns

open Lib Outcome Net Upstream

/-- The search for the OPT record ends at `s`, where one of the root stands. -/
def RootOptAt (packet : Packet) (s : ℕ) : Prop :=
  ∃ (off : ℕ) (before : List Record), AdditionalAt packet off ∧ RecordsAt packet before off s ∧
    before.length < (be16At packet 10).toNat ∧ (∀ r ∈ before, ¬ r.IsRootOpt) ∧
    packet[s]? = some 0 ∧ be16At packet (s + 1) = dnsTypeOpt

/-- The end of the RDATA of the OPT record at `s`. -/
def rdataEnd (packet : Packet) (s : ℕ) : ℕ := s + 11 + (be16At packet (s + 9)).toNat

/-- The parts of a query with one question and a record of the root among the additional ones, as
the parser reads them. -/
structure OptSplit (packet : Packet) (m : Msg) where
  /-- Where the answers begin. -/
  answersAt : ℕ
  /-- Where the authority records begin. -/
  authoritiesAt : ℕ
  /-- Where the additional records begin. -/
  additionalsAt : ℕ
  /-- Where the record of the root begins. -/
  optAt : ℕ
  /-- Where it ends. -/
  optEnd : ℕ
  /-- The additional records before it. -/
  before : List ResourceRecord
  /-- The record of the root. -/
  opt : ResourceRecord
  /-- The additional records after it. -/
  behind : List ResourceRecord
  questions : Msg.unpackQuestions packet 1 12 = .ok (m.questions, answersAt)
  answers : unpackRrSection packet (be16At packet 6).toNat answersAt =
    .ok (m.answers, authoritiesAt)
  authorities : unpackRrSection packet (be16At packet 8).toNat authoritiesAt =
    .ok (m.authorities, additionalsAt)
  unpack_before : unpackRrSection packet before.length additionalsAt = .ok (before, optAt)
  unpack_opt : unpackRr packet optAt = .ok (opt, optEnd)
  unpack_behind : unpackRrSection packet behind.length optEnd = .ok (behind, packet.length)
  root : packet[optAt]? = some 0
  qdcount : be16At packet 4 = 1
  arcount : (be16At packet 10).toNat = before.length + (behind.length + 1)
  additionals : m.additionals = before ++ opt :: behind

/-- The query gets an option at the end of its OPT record, and one of its compression pointers leads
after that record. -/
def PointsBehind (packet : Packet) : Prop :=
  ∃ s x t, RootOptAt packet s ∧
    hasEcs packet (s + 11) (be16At packet (s + 9)).toNat ((be16At packet (s + 9)).toNat + 1) 0 =
      .ok false ∧ PointerAt packet x t ∧ rdataEnd packet s ≤ t

section

variable {packet packet' : Packet} {n off s : ℕ}

/-! ### The search -/

/-- **Where the option goes.** -/
theorem ecsTarget_eq_some_iff {o rdlength : ℕ} : ecsTarget packet = .ok (some (o, rdlength)) ↔
    packet.length ≤ 4096 ∧ be16At packet 4 = 1 ∧ ∃ s, RootOptAt packet s ∧ s + 11 ≤ packet.length ∧
      o = s + 9 ∧ rdlength = (be16At packet (s + 9)).toNat ∧
      hasEcs packet (s + 11) (be16At packet (s + 9)).toNat
        ((be16At packet (s + 9)).toNat + 1) 0 = .ok false := by
  constructor
  · intro h
    simp only [ecsTarget, bind_eq_ok, Prod.exists] at h
    obtain ⟨off, arcount, hsec, opt, hopt, h⟩ := h
    obtain ⟨hmax, hqd, hat, rfl, -⟩ := ecsAdditional_eq_ok_iff.mp hsec
    cases opt with
    | none => cases h
    | some info =>
      obtain ⟨before, s, hrs, hn, hno, hs⟩ := findOptRecord_eq_some_iff.mp hopt
      obtain ⟨hz, ht, hle, rfl⟩ := rootOpt_eq_some_iff.mp hs
      simp only [bind_eq_ok] at h
      obtain ⟨has, hhas, h⟩ := h
      cases has with
      | true => cases h
      | false =>
        cases h
        exact ⟨hmax, hqd, s, ⟨off, before, hat, hrs, hn, hno, hz, ht⟩, hle, rfl, rfl, hhas⟩
  · rintro ⟨hmax, hqd, s, ⟨off, before, hat, hrs, hn, hno, hz, ht⟩, hle, rfl, rfl, hhas⟩
    have hpos : 0 < be16At packet 10 := UInt16.lt_iff_toNat_lt.mpr (Nat.zero_lt_of_lt hn)
    have hfind := findOptRecord_eq_some_iff.mpr ⟨before, s, hrs, hn, hno,
      rootOpt_eq_some_iff.mpr ⟨hz, ht, hle, rfl⟩⟩
    rw [ecsTarget, ecsAdditional_eq_ok_iff.mpr ⟨hmax, hqd, hat, rfl, hpos⟩, ok_bind]
    simp only [hfind, ok_bind, hhas, Bool.false_eq_true, if_false, pure_eq_ok]

/-! ### The two walks -/

/-- The walker gets past the records the parser reads. -/
theorem walk_of_unpackRrSection {stop : ℕ} {records : List ResourceRecord}
    (h : unpackRrSection packet n off = .ok (records, stop)) :
    traverseRrs packet (fun _ _ => .ok ()) n off () = .ok (stop, ()) := by
  have hcb : ∀ off (s : Unit), off + 10 ≤ packet.length →
      ∃ s', (.ok () : Outcome Error Unit) = .ok s' := fun _ _ _ => ⟨(), rfl⟩
  obtain ⟨_, hwalk⟩ := traverseRrs_of_unpackRrSection hcb () h
  exact hwalk

/-- It gets to where the parser is. -/
theorem additionalAt_of_unpack {questions : List Upstream.Question} {o₁ o₂ o₃ : ℕ}
    {answers authorities : List ResourceRecord}
    (h₁ : Msg.unpackQuestions packet 1 12 = .ok (questions, o₁))
    (h₂ : unpackRrSection packet (be16At packet 6).toNat o₁ = .ok (answers, o₂))
    (h₃ : unpackRrSection packet (be16At packet 8).toNat o₂ = .ok (authorities, o₃)) :
    AdditionalAt packet o₃ := by
  obtain ⟨name, e, rest, hname, -, hle, hrest, -⟩ := Msg.unpackQuestions_succ h₁
  cases hrest
  exact walk_eq_ok_iff.mp ⟨e, skipName_of_fromWire hname (by omega), by omega, by omega,
    walk_of_unpackRrSection (unpackRrSection_add h₂ h₃)⟩

/-- **The parser reads the records before the OPT record, that record, and those after it.** -/
theorem unpackRrSection_at {before : List Record} {stop : ℕ} {records : List ResourceRecord}
    (h : unpackRrSection packet n off = .ok (records, stop)) (hrs : RecordsAt packet before off s)
    (hn : before.length < n) : ∃ as opt e bs, unpackRrSection packet before.length off = .ok (as, s) ∧
      unpackRr packet s = .ok (opt, e) ∧
      unpackRrSection packet (n - (before.length + 1)) e = .ok (bs, stop) ∧
      records = as ++ opt :: bs := by
  obtain ⟨k, rfl⟩ := Nat.exists_eq_add_of_lt hn
  rw [Nat.add_assoc] at h
  obtain ⟨as, mid, bs, has, hbs, rfl⟩ := unpackRrSection_split h
  have ht := walk_of_unpackRrSection has
  rw [traverseRrs_records _ hrs.1, foldOffsets_unit, ok_bind, Outcome.ok.injEq, Prod.mk.injEq,
    ← hrs.2] at ht
  obtain ⟨rfl, -⟩ := ht
  obtain ⟨opt, e, rest, hopt, hrest, rfl⟩ := unpackRrSection_succ hbs
  rw [Nat.add_assoc, Nat.add_sub_add_left, Nat.add_sub_cancel]
  exact ⟨as, opt, e, rest, has, hopt, hrest, rfl⟩

/-- A record of the root, field by field. -/
theorem rootRecord_fields {rr : ResourceRecord} {e : ℕ} (h : unpackRr packet s = .ok (rr, e))
    (hz : packet[s]? = some 0) : ∃ rtype, rr.name = ⟨[]⟩ ∧ rr.rrType = RrType.fromU16 rtype ∧
      rr.rdata.length < 65536 ∧ e = rdataEnd packet s ∧ e ≤ packet.length ∧
      (be16At packet (s + 9)).toNat = rr.rdata.length ∧
      packet.drop (s + 1) = (u16Bytes rtype ++ (u16Bytes rr.rrClass ++ u32Bytes rr.ttl)) ++
        packet.drop (s + 9) ∧
      packet.drop (s + 9) = u16Bytes (UInt16.ofNat rr.rdata.length) ++
        (rr.rdata ++ packet.drop e) := by
  obtain ⟨e', rtype, hname, ht, hfit, rfl, hle, hd⟩ := unpackRr_fields h
  rw [Name.fromWire_root hz, Outcome.ok.injEq, Prod.mk.injEq] at hname
  obtain ⟨hname, rfl⟩ := hname
  have hd' : packet.drop (s + 1) = (u16Bytes rtype ++ (u16Bytes rr.rrClass ++ u32Bytes rr.ttl)) ++
      (u16Bytes (UInt16.ofNat rr.rdata.length) ++
        (rr.rdata ++ packet.drop (s + 1 + 10 + rr.rdata.length))) := by
    rw [hd]
    simp only [List.append_assoc]
  have hd₉ : packet.drop (s + 9) = _ := drop_of_drop _ hd'
  have hrd : (be16At packet (s + 9)).toNat = rr.rdata.length := by
    rw [← Nat.add_zero (s + 9), ← be16At_drop, hd₉, be16At_u16Bytes]
    exact UInt16.toNat_ofNat_of_lt hfit
  exact ⟨rtype, hname.symm, ht, hfit, by rw [rdataEnd, hrd], hle, hrd, by rw [hd', hd₉], hd₉⟩

/-- **Where the OPT record stands**, a query that is unpacked is split. -/
theorem exists_optSplit {m : Msg} (h : Msg.unpack packet = .ok m) (hqd : be16At packet 4 = 1)
    (hopt : RootOptAt packet s) : ∃ p : OptSplit packet m, p.optAt = s := by
  obtain ⟨-, -, -, o₁, o₂, o₃, h₁, h₂, h₃, h₄⟩ := Msg.unpack_eq_ok.mp h
  rw [hqd] at h₁
  obtain ⟨off, before, hat, hrs, hn, -, hz, -⟩ := hopt
  obtain rfl := hat.unique (additionalAt_of_unpack h₁ h₂ h₃)
  obtain ⟨as, opt, e, bs, has, hopt, hbs, hrecords⟩ := unpackRrSection_at h₄ hrs hn
  have hcount := (fits_of_unpackRrSection h₄).1
  have hbefore := (fits_of_unpackRrSection has).1
  have hbehind := (fits_of_unpackRrSection hbs).1
  rw [← hbefore] at has
  rw [← hbehind] at hbs
  refine ⟨⟨o₁, o₂, off, s, e, as, opt, bs, h₁, h₂, h₃, has, hopt, hbs, hz, hqd, ?_, hrecords⟩, rfl⟩
  omega

section

variable {m : Msg} (p : OptSplit packet m)

theorem OptSplit.nameOffsets_eq : nameOffsets packet = questionOffsets packet 1 12 ++
    (rrOffsets packet (be16At packet 6).toNat p.answersAt ++
    (rrOffsets packet (be16At packet 8).toNat p.authoritiesAt ++
    (rrOffsets packet p.before.length p.additionalsAt ++
      p.optAt :: rrOffsets packet p.behind.length p.optEnd))) := by
  have hopt : rrOffsets packet (p.behind.length + 1) p.optAt =
      p.optAt :: rrOffsets packet p.behind.length p.optEnd := by rw [rrOffsets, p.unpack_opt]
  have hqd : (be16At packet 4).toNat = 1 := congrArg UInt16.toNat p.qdcount
  rw [nameOffsets, hqd, Upstream.dnsHeaderSize, p.questions]
  dsimp only
  rw [p.arcount, Nat.add_assoc, rrOffsets_add _ p.answers, rrOffsets_add _ p.authorities,
    rrOffsets_add _ p.unpack_before, hopt]

/-- The record of the root, where it stands. -/
theorem OptSplit.optEnd_eq : p.optEnd = rdataEnd packet p.optAt ∧ p.optEnd ≤ packet.length ∧
    (be16At packet (p.optAt + 9)).toNat = p.opt.rdata.length := by
  obtain ⟨_, -, -, -, he, hle, hrd, -, -⟩ := rootRecord_fields p.unpack_opt p.root
  exact ⟨he, hle, hrd⟩

theorem OptSplit.le_optAt : 12 ≤ p.answersAt ∧ p.answersAt ≤ p.authoritiesAt ∧
    p.authoritiesAt ≤ p.additionalsAt ∧ p.additionalsAt ≤ p.optAt :=
  ⟨le_stop_of_unpackQuestions p.questions, le_stop_of_unpackRrSection p.answers,
    le_stop_of_unpackRrSection p.authorities, le_stop_of_unpackRrSection p.unpack_before⟩

/-- **Each name stands before the RDLENGTH** of the OPT record or after its RDATA. -/
theorem OptSplit.name_cases {x : ℕ} (hx : x ∈ nameOffsets packet) :
    ∃ name next, Name.fromWire packet x = .ok (name, next) ∧
      (next ≤ p.optAt + 9 ∨ p.optEnd ≤ x) := by
  obtain ⟨-, hle₁, hle₂, hle₃⟩ := p.le_optAt
  rw [p.nameOffsets_eq] at hx
  simp only [List.mem_append, List.mem_cons] at hx
  rcases hx with hx | hx | hx | hx | rfl | hx
  · obtain ⟨name, next, hn, hle⟩ := mem_questionOffsets p.questions hx
    exact ⟨name, next, hn, .inl (by omega)⟩
  · obtain ⟨-, name, next, hn, hle⟩ := mem_rrOffsets p.answers hx
    exact ⟨name, next, hn, .inl (by omega)⟩
  · obtain ⟨-, name, next, hn, hle⟩ := mem_rrOffsets p.authorities hx
    exact ⟨name, next, hn, .inl (by omega)⟩
  · obtain ⟨-, name, next, hn, hle⟩ := mem_rrOffsets p.unpack_before hx
    exact ⟨name, next, hn, .inl (by omega)⟩
  · exact ⟨_, _, Name.fromWire_root p.root, .inl (by omega)⟩
  · obtain ⟨hge, name, next, hn, -⟩ := mem_rrOffsets p.unpack_behind hx
    exact ⟨name, next, hn, .inr hge⟩

end

/-! ### A packet with bytes after the RDATA -/

section

variable {m : Msg} {p : OptSplit packet m} {d : ℕ}

/-- Pointers that do not lead beyond the OPT record lead to names that stay. -/
theorem OptSplit.targetsKept (hlabels : PointersToLabels packet)
    (hbehind : ∀ x t, PointerAt packet x t → t < p.optEnd)
    (hfront : SameAt packet packet' 0 0 (p.optAt + 9)) : TargetsKept packet packet' := by
  intro x t ht
  obtain ⟨-, ⟨s, hs, hin⟩, -⟩ := hlabels x t ht
  have hlt := hbehind x t ht
  refine ⟨⟨s, hs, hin⟩, fun k labels next hwire => hfront.mono (Nat.zero_le _) ?_⟩
  obtain ⟨name, e, hname, hcases⟩ := p.name_cases hs
  obtain ⟨_, -, -, hwire₀⟩ := Name.fromWire_eq_ok_iff.mp hname
  obtain ⟨hle, labels', hwire'⟩ := hin.wireName hwire₀
  obtain ⟨-, -, rfl⟩ := hwire.unique hwire'
  omega

/-- **The records before the OPT record** are read as before. -/
theorem OptSplit.unpack_front {n off stop : ℕ} {records : List ResourceRecord}
    (hlen : packet.length ≤ packet'.length) (htargets : TargetsKept packet packet')
    (hfront : SameAt packet packet' 0 0 (p.optAt + 9))
    (h : unpackRrSection packet n off = .ok (records, stop))
    (hsub : ∀ x ∈ rrOffsets packet n off, x ∈ nameOffsets packet) (hstop : stop ≤ p.optAt) :
    unpackRrSection packet' n off = .ok (records, stop) := by
  refine unpackRrSection_moved h (fun x hx => ?_) (hfront.mono (Nat.zero_le _) (by omega))
  obtain ⟨-, name, next, hname, hnext⟩ := mem_rrOffsets h hx
  exact Name.moved hlen htargets (hsub x hx) hname (hfront.mono (Nat.zero_le _) (by omega))

/-- **A query whose OPT record has grown**, with what stands after it `d` places further on, is the
same query otherwise. -/
theorem OptSplit.unpack_grown {opt' : ResourceRecord} (h : Msg.unpack packet = .ok m)
    (hlen : packet'.length = packet.length + d) (htargets : TargetsKept packet packet')
    (hfront : SameAt packet packet' 0 0 (p.optAt + 9))
    (hback : SameAt packet packet' d p.optEnd packet.length)
    (hopt' : unpackRr packet' p.optAt = .ok (opt', p.optEnd + d)) :
    Msg.unpack packet' = .ok { m with additionals := p.before ++ opt' :: p.behind } := by
  obtain ⟨hmin, hheader, hcompress, -⟩ := Msg.unpack_eq_ok.mp h
  obtain ⟨hle₀, hle₁, hle₂, hle₃⟩ := p.le_optAt
  have hle : packet.length ≤ packet'.length := by omega
  have hsub : ∀ x, x ∈ questionOffsets packet 1 12 ∨
      x ∈ rrOffsets packet (be16At packet 6).toNat p.answersAt ∨
      x ∈ rrOffsets packet (be16At packet 8).toNat p.authoritiesAt ∨
      x ∈ rrOffsets packet p.before.length p.additionalsAt ∨ x = p.optAt ∨
      x ∈ rrOffsets packet p.behind.length p.optEnd → x ∈ nameOffsets packet := by
    intro x hx
    rw [p.nameOffsets_eq]
    simpa only [List.mem_append, List.mem_cons] using hx
  -- the header
  have htake : packet'.take 12 = packet.take 12 :=
    (hfront.mono (Nat.le_refl _) (by omega)).take
  have hread : ∀ i, i ≤ 10 → be16At packet' i = be16At packet i :=
    fun i hi => be16At_congr htake (by omega)
  -- the sections
  have hquestions : Msg.unpackQuestions packet' 1 12 = .ok (m.questions, p.answersAt) := by
    refine unpackQuestions_moved p.questions (fun x hx => ?_)
      (hfront.mono (Nat.zero_le _) (by omega))
    obtain ⟨name, next, hname, hnext⟩ := mem_questionOffsets p.questions hx
    exact Name.moved hle htargets (hsub x (.inl hx)) hname
      (hfront.mono (Nat.zero_le _) (by omega))
  have hanswers := p.unpack_front hle htargets hfront p.answers
    (fun x hx => hsub x (.inr (.inl hx))) (by omega)
  have hauthorities := p.unpack_front hle htargets hfront p.authorities
    (fun x hx => hsub x (.inr (.inr (.inl hx)))) (by omega)
  have hbefore := p.unpack_front hle htargets hfront p.unpack_before
    (fun x hx => hsub x (.inr (.inr (.inr (.inl hx))))) (Nat.le_refl _)
  have hbehind : unpackRrSection packet' p.behind.length (p.optEnd + d) =
      .ok (p.behind, packet'.length) := by
    rw [hlen]
    refine unpackRrSection_moved p.unpack_behind (fun x hx => ?_) hback
    obtain ⟨hge, name, next, hname, hnext⟩ := mem_rrOffsets p.unpack_behind hx
    exact Name.moved hle htargets (hsub x (.inr (.inr (.inr (.inr (.inr hx)))))) hname
      (hback.mono hge hnext)
  have hrest : unpackRrSection packet' (p.behind.length + 1) p.optAt =
      .ok (opt' :: p.behind, packet'.length) := by
    simp only [unpackRrSection, hopt', ok_bind, hbehind, pure_eq_ok]
  have hadditionals := unpackRrSection_add hbefore hrest
  rw [← p.arcount] at hadditionals
  refine Msg.unpack_eq_ok.mpr ⟨by omega, ?_, hcompress, p.answersAt, p.authoritiesAt,
    p.additionalsAt, ?_, ?_, ?_, ?_⟩
  · rw [hread 0 (by omega), hread 2 (by omega)]
    exact hheader
  · rw [hread 4 (by omega), p.qdcount]
    exact hquestions
  · rw [hread 6 (by omega)]
    exact hanswers
  · rw [hread 8 (by omega)]
    exact hauthorities
  · rw [hread 10 (by omega)]
    exact hadditionals

end

/-! ### The packet with the option -/

section

variable {pre as as' rdata rest option : List UInt8} {w w' : UInt16}

/-- What stands before the RDLENGTH stays. -/
theorem sameAt_front (h : packet = pre ++ as) (h' : packet' = pre ++ as') :
    SameAt packet packet' 0 0 pre.length := by
  subst h h'
  intro x _ hx
  rw [Nat.add_zero, List.getElem?_append_left hx, List.getElem?_append_left hx]

/-- What stands after the RDATA moves by the option's length. -/
theorem sameAt_back (h : packet = pre ++ (u16Bytes w ++ (rdata ++ rest)))
    (h' : packet' = pre ++ (u16Bytes w' ++ (rdata ++ (option ++ rest)))) {j : ℕ} :
    SameAt packet packet' option.length (pre.length + 2 + rdata.length) j := by
  have hold : packet = (pre ++ u16Bytes w ++ rdata) ++ rest := by
    simp only [h, List.append_assoc]
  have hnew : packet' = (pre ++ u16Bytes w' ++ rdata ++ option) ++ rest := by
    simp only [h', List.append_assoc]
  intro x hx _
  rw [hold, hnew, List.getElem?_append_right (by simp; omega),
    List.getElem?_append_right (by simp; omega)]
  congr 1
  simp only [List.length_append, length_u16Bytes]
  omega

end

/-- **What moves**: the bytes after the RDATA, by the option's length. -/
theorem OptSplit.withEcs_moves {m : Msg} (p : OptSplit packet m) {option : List UInt8}
    (h : packet' = withEcs packet option (p.optAt + 9) (be16At packet (p.optAt + 9)).toNat) :
    packet'.length = packet.length + option.length ∧
      SameAt packet packet' 0 0 (p.optAt + 9) ∧
      SameAt packet packet' option.length p.optEnd packet.length ∧
      packet'.drop (p.optAt + 9) = u16Bytes (UInt16.ofNat (p.opt.rdata.length + option.length)) ++
        (p.opt.rdata ++ (option ++ packet.drop p.optEnd)) := by
  obtain ⟨_, -, -, -, hend, hle, hrd, -, hd⟩ := rootRecord_fields p.unpack_opt p.root
  rw [rdataEnd, hrd] at hend
  -- the packet cut at the RDLENGTH, and after the RDATA
  have hpre : p.optAt + 9 = (packet.take (p.optAt + 9)).length := by
    rw [List.length_take]
    omega
  have hpacket : packet = packet.take (p.optAt + 9) ++
      (u16Bytes (UInt16.ofNat p.opt.rdata.length) ++ (p.opt.rdata ++ packet.drop p.optEnd)) := by
    rw [← hd, List.take_append_drop]
  rw [withEcs_of_eq hpacket hpre hrd] at h
  have hback := sameAt_back hpacket h (j := packet.length)
  rw [← hpre, show p.optAt + 9 + 2 + p.opt.rdata.length = p.optEnd by omega] at hback
  refine ⟨?_, hpre ▸ sameAt_front hpacket h, hback, ?_⟩
  · rw [h, congrArg List.length hpacket]
    simp only [List.length_append, length_u16Bytes]
    omega
  · rw [h, List.drop_left' hpre.symm]

/-- **The option after the RDATA** of the OPT record: that record has it, and the query is the same
otherwise. -/
theorem unpack_withEcs {m : Msg} (h : Msg.unpack packet = .ok m) (p : OptSplit packet m)
    (hlabels : PointersToLabels packet) (hbehind : ∀ x t, PointerAt packet x t → t < p.optEnd)
    {option : List UInt8} (hfit : p.opt.rdata.length + option.length < 65536) :
    Msg.unpack (withEcs packet option (p.optAt + 9) (be16At packet (p.optAt + 9)).toNat) =
      .ok { m with additionals :=
        p.before ++ { p.opt with rdata := p.opt.rdata ++ option } :: p.behind } := by
  generalize hnew : withEcs packet option (p.optAt + 9) (be16At packet (p.optAt + 9)).toNat = packet'
  obtain ⟨hlen, hfront, hback, hdata⟩ := p.withEcs_moves hnew.symm
  refine p.unpack_grown h hlen (p.targetsKept hlabels hbehind hfront) hfront hback ?_
  -- the OPT record itself
  obtain ⟨rtype, hname, htype, -, hend, -, hrd, hd, -⟩ := rootRecord_fields p.unpack_opt p.root
  rw [rdataEnd, hrd] at hend
  have hzero : packet'[p.optAt]? = some 0 :=
    (hfront p.optAt (Nat.zero_le _) (by omega)).trans p.root
  have hfields : packet'.drop (p.optAt + 1) =
      (u16Bytes rtype ++ (u16Bytes p.opt.rrClass ++ u32Bytes p.opt.ttl)) ++
        packet'.drop (p.optAt + 9) := drop_of_take_eq hfront.take (by omega) hd
  have hd' : packet'.drop (p.optAt + 1) = u16Bytes rtype ++ (u16Bytes p.opt.rrClass ++
      (u32Bytes p.opt.ttl ++ (u16Bytes (UInt16.ofNat (p.opt.rdata ++ option).length) ++
        ((p.opt.rdata ++ option) ++ packet.drop p.optEnd)))) := by
    rw [List.length_append, hfields, hdata]
    simp only [List.append_assoc]
  have hread := unpackRr_of_drop (Name.fromWire_root hzero) (by rwa [List.length_append]) hd'
  rw [hread, List.length_append]
  dsimp only
  rw [hname, htype, hend]
  simp only [Outcome.ok.injEq, Prod.mk.injEq, true_and]
  omega

/-- A compression pointer of `packet` leads to the same offset in `packet'`, though what it led to
stands further on there. -/
def Misses (packet packet' : Packet) : Prop :=
  ∃ x t d, PointerAt packet x t ∧ 0 < d ∧ SameAt packet packet' d x (x + 2) ∧
    SameAt packet packet' d t packet.length

section

variable {m : Msg} {clientIp : IpAddr} {prefixV4 prefixV6 : UInt8}

theorem length_ecsOption (clientIp : IpAddr) (prefixV4 prefixV6 : UInt8) :
    (ecsOption clientIp prefixV4 prefixV6).length =
      4 + (buildEcsOption clientIp prefixV4 prefixV6).length := by
  rw [← ecsOptionOf_bytes, EdnsOption.length_bytes]
  rfl

/-- **The names stay** where no pointer leads beyond the OPT record. -/
theorem sameNames_of_not_pointsBehind (h : Msg.unpack packet = .ok m)
    (hlabels : PointersToLabels packet)
    (hok : addEcsToPacket clientIp prefixV4 prefixV6 packet = (.ok (), packet'))
    (hbehind : ¬ PointsBehind packet) : ∃ m', Msg.unpack packet' = .ok m' ∧ m.SameNames m' := by
  rw [addEcsToPacket_eq] at hok
  cases ht : ecsTarget packet with
  | ok target =>
    rw [ht] at hok
    cases target with
    | none =>
      cases hok
      exact ⟨m, h, rfl, rfl, rfl, rfl⟩
    | some info =>
      obtain ⟨o, rdlength⟩ := info
      cases hok
      obtain ⟨hmax, hqd, s, hopt, -, rfl, rfl, hhas⟩ := ecsTarget_eq_some_iff.mp ht
      obtain ⟨p, rfl⟩ := exists_optSplit h hqd hopt
      obtain ⟨hend, hle, hrd⟩ := p.optEnd_eq
      have hpointers : ∀ x t, PointerAt packet x t → t < p.optEnd := by
        intro x t hpt
        by_contra hge
        exact hbehind ⟨p.optAt, x, t, hopt, hhas, hpt, by omega⟩
      have hfit : p.opt.rdata.length + (ecsOption clientIp prefixV4 prefixV6).length < 65536 := by
        have := length_buildEcsOption_le clientIp prefixV4 prefixV6
        rw [rdataEnd] at hend
        rw [length_ecsOption]
        omega
      refine ⟨_, unpack_withEcs h p hlabels hpointers hfit, rfl, rfl, rfl, ?_⟩
      rw [p.additionals, List.map_append, List.map_append]
      rfl
  | err => simp [ht] at hok
  | panic => simp [ht] at hok
  | timeout => simp [ht] at hok

/-- **A pointer that leads beyond it misses its label.** -/
theorem misses_of_pointsBehind (h : Msg.unpack packet = .ok m) (hlabels : PointersToLabels packet)
    (hok : addEcsToPacket clientIp prefixV4 prefixV6 packet = (.ok (), packet'))
    (hbehind : PointsBehind packet) : Misses packet packet' := by
  obtain ⟨s, x, t, hopt, hhas, hpt, hge⟩ := hbehind
  rw [addEcsToPacket_eq] at hok
  cases ht : ecsTarget packet with
  | ok target =>
    have hsec := ht
    simp only [ecsTarget, bind_eq_ok, Prod.exists] at hsec
    obtain ⟨off, arcount, hsec, -⟩ := hsec
    obtain ⟨hmax, hqd, -⟩ := ecsAdditional_eq_ok_iff.mp hsec
    obtain ⟨p, rfl⟩ := exists_optSplit h hqd hopt
    obtain ⟨hend, hle, -⟩ := p.optEnd_eq
    have hroom : p.optAt + 11 ≤ packet.length := by
      rw [rdataEnd] at hend
      omega
    rw [ecsTarget_eq_some_iff.mpr ⟨hmax, hqd, p.optAt, hopt, hroom, rfl, rfl, hhas⟩] at hok
    obtain ⟨-, -, hback, -⟩ := p.withEcs_moves (congrArg Prod.snd hok).symm
    -- the pointer stands after the record too, what it leads to being before it
    have hlt := (hlabels x t hpt).1
    have hpair : x + 2 ≤ packet.length := by
      obtain ⟨-, _, _, -, -, hlow, -⟩ := hpt
      exact (List.getElem?_eq_some_iff.mp hlow).1
    refine ⟨x, t, _, hpt, ?_, hback.mono (by omega) hpair, hback.mono (by omega) (Nat.le_refl _)⟩
    rw [length_ecsOption]
    omega
  | err => simp [ht] at hok
  | panic => simp [ht] at hok
  | timeout => simp [ht] at hok

end

/-- **Names and the option.** In a query whose compression pointers lead to labels the names stay as
they are if none of the pointers leads beyond the OPT record that gets the option. One that does
misses its label. -/
theorem addEcsToPacket_names {m : Msg} (clientIp : IpAddr) (prefixV4 prefixV6 : UInt8)
    (h : Msg.unpack packet = .ok m) (hlabels : PointersToLabels packet)
    (hok : addEcsToPacket clientIp prefixV4 prefixV6 packet = (.ok (), packet')) :
    (¬ PointsBehind packet → ∃ m', Msg.unpack packet' = .ok m' ∧ m.SameNames m') ∧
      (PointsBehind packet → Misses packet packet') :=
  ⟨sameNames_of_not_pointsBehind h hlabels hok, misses_of_pointsBehind h hlabels hok⟩

/-! ### A pointer beyond the OPT record -/

/-- A query for the name `q` with three additional records: an OPT record, a record of the name `a`,
and one whose owner name is a pointer to `low`. -/
def pointerQuery (low : UInt8) : Packet :=
  [0x12, 0x34, 1, 0, 0, 1, 0, 0, 0, 0, 0, 3] ++ ([1, 0x71, 0, 0, 1, 0, 1] ++
    ([0, 0, 41, 16, 0, 0, 0, 0, 0, 0, 0] ++ ([1, 0x61, 0, 0, 1, 0, 1, 0, 0, 0, 60, 0, 0] ++
      [0xc0, low, 0, 1, 0, 1, 0, 0, 0, 60, 0, 0])))

/-- Its one pointer is the last record's. -/
theorem pointerAt_pointerQuery {low : UInt8} (hnames : nameOffsets (pointerQuery low) =
    [12, 19, 30, 43]) {x t : ℕ} (h : PointerAt (pointerQuery low) x t) :
    x = 43 ∧ t = pointerTarget 0xc0 low := by
  obtain ⟨hpart, high, low', hb, hhigh, hl, rfl⟩ := h
  have hmem := hpart.mem (show ∀ off ∈ nameOffsets (pointerQuery low),
    off ∈ [12, 14, 19, 30, 32, 43] by rw [hnames]; decide) (by rfl)
  simp only [List.mem_cons, List.not_mem_nil, or_false] at hmem
  rcases hmem with rfl | rfl | rfl | rfl | rfl | rfl
  case inr.inr.inr.inr.inr =>
    cases hb
    cases hl
    exact ⟨rfl, rfl⟩
  all_goals
    cases hb
    exact absurd hhigh (by decide)

/-- The message of such a query, the last record's owner being `owner`. -/
def pointerMsg (rdata : List UInt8) (owner : Name) : Msg :=
  ⟨MsgHeader.fromWire 0x1234 0x0100, false, [⟨⟨[[0x71]]⟩, .A, 1⟩], [], [],
    [⟨⟨[]⟩, .fromU16 41, 4096, 0, rdata⟩, ⟨⟨[[0x61]]⟩, .A, 1, 60, []⟩, ⟨owner, .A, 1, 60, []⟩]⟩

theorem pointersToLabels_pointerQuery {low : UInt8} (hnames : nameOffsets (pointerQuery low) =
    [12, 19, 30, 43]) (ht : pointerTarget 0xc0 low ∈ [12, 30]) :
    PointersToLabels (pointerQuery low) := by
  intro x t h
  obtain ⟨rfl, rfl⟩ := pointerAt_pointerQuery hnames h
  have hpart : ∀ s ∈ [12, 30], NamePart (pointerQuery low) s := by
    intro s hs
    refine ⟨s, ?_, .first⟩
    rw [hnames]
    revert s
    decide
  refine ⟨?_, hpart _ ht, 1, ?_, by decide⟩
  · revert ht
    generalize pointerTarget 0xc0 low = t
    simp only [List.mem_cons, List.not_mem_nil, or_false]
    omega
  · simp only [List.mem_cons, List.not_mem_nil, or_false] at ht
    rcases ht with ht | ht <;> (rw [ht]; rfl)

/-- **A pointer beyond the OPT record is misread**: it leads into the option, to a byte that is the
root's. -/
theorem pointerQuery_misread : ¬ ∀ (clientIp : IpAddr) (prefixV4 prefixV6 : UInt8)
    (packet packet' : Packet) (m : Msg), Msg.unpack packet = .ok m → m.questions.length = 1 →
    PointersToLabels packet →
    addEcsToPacket clientIp prefixV4 prefixV6 packet = (.ok (), packet') →
    ∃ m', Msg.unpack packet' = .ok m' ∧ m.SameNames m' := by
  intro h
  have hlabels := pointersToLabels_pointerQuery
    (show nameOffsets (pointerQuery 30) = _ by decide +kernel) (by decide)
  obtain ⟨m', hm', hsame⟩ := h (.v4 #v[192, 168, 1, 7]) 24 56 (pointerQuery 30)
    (withEcs (pointerQuery 30) (ecsOption (.v4 #v[192, 168, 1, 7]) 24 56) 28 0)
    (pointerMsg [] ⟨[[0x61]]⟩) (by decide +kernel) rfl hlabels (by decide +kernel)
  have hroot : Msg.unpack
      (withEcs (pointerQuery 30) (ecsOption (.v4 #v[192, 168, 1, 7]) 24 56) 28 0) =
      .ok (pointerMsg (ecsOption (.v4 #v[192, 168, 1, 7]) 24 56) ⟨[]⟩) := by decide +kernel
  rw [hroot] at hm'
  cases hm'
  exact absurd hsame.additionals (by decide +kernel)

/-- A pointer to the question name is not. -/
theorem addEcsToPacket_names_pointerQuery : ∃ packet' m',
    addEcsToPacket (.v4 #v[192, 168, 1, 7]) 24 56 (pointerQuery 12) = (.ok (), packet') ∧
      packet' ≠ pointerQuery 12 ∧ Msg.unpack packet' = .ok m' ∧
      (pointerMsg [] ⟨[[0x71]]⟩).SameNames m' := by
  have hnames : nameOffsets (pointerQuery 12) = [12, 19, 30, 43] := by decide +kernel
  have hbehind : ¬ PointsBehind (pointerQuery 12) := by
    rintro ⟨s, x, t, ⟨off, before, hat, hrs, -⟩, -, hpt, hle⟩
    obtain ⟨-, rfl⟩ := pointerAt_pointerQuery hnames hpt
    have hoff := hat.le_length.1
    have hs := hrs.2
    have htarget : pointerTarget 0xc0 12 = 12 := by decide
    rw [rdataEnd, htarget] at hle
    omega
  have hok : addEcsToPacket (.v4 #v[192, 168, 1, 7]) 24 56 (pointerQuery 12) = (.ok (),
      withEcs (pointerQuery 12) (ecsOption (.v4 #v[192, 168, 1, 7]) 24 56) 28 0) := by
    decide +kernel
  obtain ⟨m', hm', hsame⟩ := (addEcsToPacket_names (.v4 #v[192, 168, 1, 7]) 24 56
    (show Msg.unpack (pointerQuery 12) = .ok (pointerMsg [] ⟨[[0x71]]⟩) by decide +kernel)
    (pointersToLabels_pointerQuery hnames (by decide)) hok).1 hbehind
  exact ⟨_, m', hok, by decide +kernel, hm', hsame⟩

end

end DohProxy.Dns
