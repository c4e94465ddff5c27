import DohProxy.Dns.MinTtl
import DohProxy.Dns.OptSearch

/-!
# What the rewriters leave behind

`set_edns_max_payload_size` and `add_edns_padding` check and write in turns, and their callers go on
with the packet whether they succeed or not.

## What is proved

* `setEdnsMaxPayloadSize_of_none`, `_of_one` and `_of_not`, and the same for `addEdnsPadding` —
  result and packet, for every packet.
* `rewriters_finished` — they neither panic nor make a packet larger than 4096 bytes.
* `rewriters_unchanged_iff` — an error leaves the packet as it was **exactly when** no OPT record
  of another class stands before what the walk fails at, and no OPT record is added to a packet of
  4070 to 4085 bytes.
-/

namespace DohProxy.Dns

open Lib Outcome

section

variable {packet : Packet} {rs : List Record} {size : UInt16}

/-! ### Setting the payload size -/

/-- Where the additional section starts at `off`, the walk decides. -/
theorem setEdnsMaxPayloadSize_at {off : ℕ} (hmax : packet.length ≤ 4096)
    (hqd : be16At packet 4 = 1) (hat : AdditionalAt packet off) :
    setEdnsMaxPayloadSize size packet =
      Proc.next (traverseRrsMut packet.length (setPayload size) (be16At packet 10).toNat off false
          packet).1
        (fun r => if r.2 then pure () else addEdnsSection size)
        (traverseRrsMut packet.length (setPayload size) (be16At packet 10).toNat off false
          packet).2 := by
  obtain ⟨hle, hle'⟩ := hat.le_length
  have hread : (arcount packet : Outcome Error UInt16) = .ok (be16At packet 10) :=
    readU16_pos (by omega)
  simp only [setEdnsMaxPayloadSize, Proc.bind_apply, Proc.reads_apply, Proc.next_ok,
    additionalOffset_eq_ok_iff.mpr ⟨hmax, hqd, hat⟩, hread]

/-- Where it starts nowhere, there is an error. -/
theorem setEdnsMaxPayloadSize_of_no_section (size : UInt16)
    (h : ∀ off, packet.length ≤ 4096 → be16At packet 4 = 1 → ¬ AdditionalAt packet off) :
    ∃ msg, setEdnsMaxPayloadSize size packet = (.err msg, packet) := by
  have hf := additionalOffset_finished packet
  simp only [setEdnsMaxPayloadSize, Proc.bind_apply, Proc.reads_apply, Proc.next_ok]
  cases ha : additionalOffset packet with
  | ok off =>
    obtain ⟨hmax, hqd, hat⟩ := additionalOffset_eq_ok_iff.mp ha
    exact absurd hat (h off hmax hqd)
  | err msg => exact ⟨msg, rfl⟩
  | panic => rw [ha] at hf; exact hf.elim
  | timeout => rw [ha] at hf; exact hf.elim

theorem AdditionalAt.ne_nil {off : ℕ} (h : AdditionalAt packet off) : packet ≠ [] := by
  obtain ⟨hle, hle'⟩ := h.le_length
  rintro rfl
  rw [List.length_nil] at hle'
  omega

/-- The section starts at one place. -/
theorem additionalOpt_iff {off e : ℕ} (hmax : packet.length ≤ 4096) (hqd : be16At packet 4 = 1)
    (hat : AdditionalAt packet off) :
    AdditionalOpt packet e ↔ FirstOptAt packet (be16At packet 10).toNat off e := by
  constructor
  · rintro ⟨-, -, off', hat', h⟩
    rwa [hat.unique hat']
  · exact fun h => ⟨hmax, hqd, off, hat, h⟩

/-- One OPT record among the records of the section is where the search finds it. -/
theorem AdditionalRecords.exists_additionalOpt (h : AdditionalRecords packet rs)
    (hone : optCount rs = 1) : ∃ e, AdditionalOpt packet e := by
  obtain ⟨hmax, hqd, off, next, hat, hrs, hn⟩ := h
  obtain ⟨before, opt, after, rfl, hopt, hno⟩ := exists_split_of_optCount hone
  exact ⟨_, hmax, hqd, off, hat, hn ▸ firstOptAt_of_split hrs hopt hno⟩

/-- A packet without an OPT record gets one. -/
theorem setEdnsMaxPayloadSize_of_none (h : AdditionalRecords packet rs) (hzero : optCount rs = 0) :
    setEdnsMaxPayloadSize size packet =
      if packet.length ≤ 4085 then
        (.ok (), setU16 packet 10 (be16At packet 10 + 1) ++ (optRecord size).bytes)
      else (.err "Packet would be too large to add a new record", packet) := by
  have hcount := h.count_lt
  obtain ⟨hmax, hqd, off, next, hat, hrs, hn⟩ := h
  have hw := (traverseRrsMut_setPayload_iff size false false hat.ne_nil).mpr
    ⟨rs, hn, hrs, by rw [hzero]; decide, by rw [hzero]; rfl⟩
  have hspec : WalkSpec (be16At packet 10).toNat off false packet _ _ :=
    walkSpec_setPayload size hat.ne_nil
  obtain ⟨-, hsame, -⟩ := hspec.unset next hw
  obtain ⟨hle, hle'⟩ := hat.le_length
  rw [setEdnsMaxPayloadSize_at hmax hqd hat, hw, hsame, Proc.next_ok, if_neg Bool.false_ne_true,
    addEdnsSection_apply size (by omega) hmax, if_pos hcount]

/-- The OPT record's class is set. -/
theorem setEdnsMaxPayloadSize_of_one (h : AdditionalRecords packet rs) (hone : optCount rs = 1)
    {e : ℕ} (he : AdditionalOpt packet e) :
    setEdnsMaxPayloadSize size packet = (.ok (), setU16 packet (e + 2) size) := by
  obtain ⟨hmax, hqd, off, next, hat, hrs, hn⟩ := h
  rw [additionalOpt_iff hmax hqd hat] at he
  have hw := (traverseRrsMut_setPayload_iff size false true hat.ne_nil).mpr
    ⟨rs, hn, hrs, by rw [hone]; decide, by rw [hone]; rfl⟩
  have hset := (traverseRrsMut_setPayload_snd size _ _ hat.ne_nil).1 e he
  rw [setEdnsMaxPayloadSize_at hmax hqd hat, hw, hset]
  rfl

/-- Where the walk fails, the first OPT record's class is set. -/
theorem setEdnsMaxPayloadSize_of_not (size : UInt16)
    (h : ¬ ∃ rs, AdditionalRecords packet rs ∧ optCount rs ≤ 1) :
    ∃ msg packet', setEdnsMaxPayloadSize size packet = (.err msg, packet') ∧
      (∀ e, AdditionalOpt packet e → packet' = setU16 packet (e + 2) size) ∧
      ((∀ e, ¬ AdditionalOpt packet e) → packet' = packet) := by
  by_cases hstart : ∃ off, packet.length ≤ 4096 ∧ be16At packet 4 = 1 ∧ AdditionalAt packet off
  · obtain ⟨off, hmax, hqd, hat⟩ := hstart
    obtain ⟨hset, hsame⟩ := traverseRrsMut_setPayload_snd size (be16At packet 10).toNat off
      hat.ne_nil
    have hspec : WalkSpec (be16At packet 10).toNat off false packet _ _ :=
      walkSpec_setPayload size hat.ne_nil
    have hf := hspec.finished
    simp only [additionalOpt_iff hmax hqd hat]
    rw [setEdnsMaxPayloadSize_at hmax hqd hat]
    cases hw : (traverseRrsMut packet.length (setPayload size) (be16At packet 10).toNat off false
      packet).1 with
    | ok r =>
      obtain ⟨rs, hn, hrs, hone, -⟩ := (traverseRrsMut_setPayload_iff _ _ _ hat.ne_nil).mp hw
      exact absurd ⟨rs, ⟨hmax, hqd, off, r.1, hat, hrs, hn⟩, by simpa using hone⟩ h
    | err msg => exact ⟨msg, _, rfl, hset, hsame⟩
    | panic => rw [hw] at hf; exact hf.elim
    | timeout => rw [hw] at hf; exact hf.elim
  · obtain ⟨msg, hmsg⟩ := setEdnsMaxPayloadSize_of_no_section size
      fun off hmax hqd hat => hstart ⟨off, hmax, hqd, hat⟩
    refine ⟨msg, packet, hmsg, ?_, fun _ => rfl⟩
    rintro e ⟨hmax, hqd, off, hat, -⟩
    exact absurd ⟨off, hmax, hqd, hat⟩ hstart

/-! ### Padding -/

/-- A packet with its padding is four bytes longer than what it is padded to. -/
theorem length_add_paddingOf {n : ℕ} (h : n ≤ 4096) :
    n + (paddingOf n).length = 4 + paddedLen n := by
  have := le_paddedLen h
  rw [paddingOf, length_ednsPaddingPrr]
  omega

theorem paddedLen_le (n : ℕ) : paddedLen n ≤ 4096 := by
  unfold paddedLen
  cases hb : paddingBoundaries.find? fun boundary => n ≤ boundary with
  | none => exact le_rfl
  | some b =>
    have hall : paddingBoundaries.all (fun b => b ≤ 4096) = true := by decide
    simpa using List.all_eq_true.mp hall b (List.mem_of_find?_eq_some hb)

/-- There is room for the padding up to the last boundary. -/
theorem paddedLen_add_le_iff {n : ℕ} : 4 + paddedLen n ≤ 4096 ↔ n ≤ 4080 := by
  unfold paddedLen
  cases hb : paddingBoundaries.find? fun boundary => n ≤ boundary with
  | none =>
    rw [List.find?_eq_none] at hb
    have := hb 4080 (by decide)
    rw [decide_eq_true_eq] at this
    exact iff_of_false (by simp) this
  | some b =>
    have hall : paddingBoundaries.all (fun b => b ≤ 4080) = true := by decide
    have hle := List.all_eq_true.mp hall b (List.mem_of_find?_eq_some hb)
    have hn := List.find?_some hb
    rw [decide_eq_true_eq] at hle hn
    exact iff_of_true (by rw [Option.getD_some]; omega) (by omega)

/-- Padding at an OPT record inside the packet fails for want of room only. -/
theorem padAt_of_fits {e : ℕ} (he : e + (10 + (be16At packet (e + 8)).toNat) ≤ packet.length)
    (hmax : packet.length ≤ 4096) :
    padAt packet.length e packet =
      if packet.length ≤ 4080 then
        (.ok (), setU16 packet (e + 8) (be16At packet (e + 8) +
          UInt16.ofNat (paddingOf packet.length).length) ++ paddingOf packet.length)
      else (.err "Large packet", packet) := by
  have hpad := length_add_paddingOf hmax
  have hle := paddedLen_le packet.length
  rw [padAt_apply (by omega) hmax, if_pos (by omega), if_pos (by omega), hpad]
  exact if_congr paddedLen_add_le_iff rfl rfl

/-- Where the additional section starts at `off`, the walk decides. -/
theorem addEdnsPadding_at {off : ℕ} (hmax : packet.length ≤ 4096)
    (hqd : be16At packet 4 = 1) (hat : AdditionalAt packet off) :
    addEdnsPadding packet =
      Proc.next (traverseRrs packet (findOpt packet) (be16At packet 10).toNat off none)
        (fun r => r.2.elim
          (do
            addEdnsSection 4096
            let packetLen ← Proc.reads fun packet => .ok packet.length
            padAt packetLen (packet.length + 1))
          (padAt packet.length)) packet := by
  obtain ⟨hle, hle'⟩ := hat.le_length
  have hread : (arcount packet : Outcome Error UInt16) = .ok (be16At packet 10) :=
    readU16_pos (by omega)
  simp only [addEdnsPadding, Proc.bind_apply, Proc.reads_apply, Proc.next_ok,
    additionalOffset_eq_ok_iff.mpr ⟨hmax, hqd, hat⟩, hread, traverseRrsMut_reads]
  congr 1
  funext r
  obtain ⟨_, ednsOffset⟩ := r
  cases ednsOffset <;> rfl

/-- A packet without an OPT record gets one, and then the padding. -/
theorem addEdnsPadding_of_none (h : AdditionalRecords packet rs) (hzero : optCount rs = 0) :
    addEdnsPadding packet =
      if packet.length ≤ 4085 then
        padAt (packet.length + 11) (packet.length + 1)
          (setU16 packet 10 (be16At packet 10 + 1) ++ (optRecord 4096).bytes)
      else (.err "Packet would be too large to add a new record", packet) := by
  have hcount := h.count_lt
  obtain ⟨hmax, hqd, off, next, hat, hrs, hn⟩ := h
  obtain ⟨hle, hle'⟩ := hat.le_length
  have ht := (traverseRrs_findOpt_iff hle').mpr ⟨rs, hn, hrs, by rw [hzero]; decide, rfl⟩
  rw [addEdnsPadding_at hmax hqd hat, ht, Proc.next_ok]
  simp only [optOffset_of_none (optCount_eq_zero_iff.mp hzero), Option.elim_none,
    Proc.bind_apply, addEdnsSection_apply 4096 (show 12 ≤ packet.length by omega) hmax,
    if_pos hcount]
  split
  · have hlen : (setU16 packet 10 (be16At packet 10 + 1) ++ (optRecord 4096).bytes).length =
        packet.length + 11 := by
      rw [List.length_append, length_setU16]
      rfl
    rw [← hlen]
    rfl
  · rfl

/-- The padding goes to the OPT record there is, which stands after the header. -/
theorem addEdnsPadding_of_one (h : AdditionalRecords packet rs) (hone : optCount rs = 1) :
    ∃ e, 12 ≤ e ∧ e + (10 + (be16At packet (e + 8)).toNat) ≤ packet.length ∧
      addEdnsPadding packet = padAt packet.length e packet := by
  obtain ⟨hmax, hqd, off, next, hat, hrs, hn⟩ := h
  obtain ⟨hle, hle'⟩ := hat.le_length
  have ht := (traverseRrs_findOpt_iff hle').mpr ⟨rs, hn, hrs, by rw [hone], rfl⟩
  obtain ⟨before, opt, after, rfl, hopt, hno⟩ := exists_split_of_optCount hone
  obtain ⟨hd, -⟩ := hrs
  rw [recordsBytes_append, recordsBytes_cons, List.append_assoc, List.append_assoc] at hd
  obtain ⟨-, hrd, -, hfits⟩ := skipName_record (drop_of_drop _ hd)
  rw [opt.length_bytes] at hfits
  refine ⟨off + (recordsBytes before).length + opt.name.bytes.length, by omega, by omega, ?_⟩
  rw [addEdnsPadding_at hmax hqd hat, ht, Proc.next_ok,
    optOffset_split hopt fun r hr => hno r (List.mem_append_left _ hr), Option.elim_some]

/-- Elsewhere there is an error. -/
theorem addEdnsPadding_of_not (h : ¬ ∃ rs, AdditionalRecords packet rs ∧ optCount rs ≤ 1) :
    ∃ msg, addEdnsPadding packet = (.err msg, packet) := by
  have hf := additionalOffset_finished packet
  cases ha : additionalOffset packet with
  | ok off =>
    obtain ⟨hmax, hqd, hat⟩ := additionalOffset_eq_ok_iff.mp ha
    obtain ⟨hle, hle'⟩ := hat.le_length
    have ht := traverseRrs_findOpt_finished (n := (be16At packet 10).toNat) hat.ne_nil hle'
    rw [addEdnsPadding_at hmax hqd hat]
    cases hw : traverseRrs packet (findOpt packet) (be16At packet 10).toNat off none with
    | ok r =>
      obtain ⟨rs, hn, hrs, hone, -⟩ := (traverseRrs_findOpt_iff hle').mp hw
      exact absurd ⟨rs, ⟨hmax, hqd, off, r.1, hat, hrs, hn⟩, hone⟩ h
    | err msg => exact ⟨msg, rfl⟩
    | panic => rw [hw] at ht; exact ht.elim
    | timeout => rw [hw] at ht; exact ht.elim
  | err msg =>
    refine ⟨msg, ?_⟩
    simp only [addEdnsPadding, Proc.bind_apply, Proc.reads_apply, Proc.next_ok, ha, Proc.next_err]
  | panic => rw [ha] at hf; exact hf.elim
  | timeout => rw [ha] at hf; exact hf.elim

/-- Padding of a packet that has just got an OPT record. -/
theorem padAt_optRecord (h : packet.length ≤ 4085) (count : UInt16) :
    padAt (packet.length + 11) (packet.length + 1)
        (setU16 packet 10 count ++ (optRecord 4096).bytes) =
      if packet.length + 11 ≤ 4080 then
        (.ok (), setU16 (setU16 packet 10 count ++ (optRecord 4096).bytes) (packet.length + 9)
          (UInt16.ofNat (paddingOf (packet.length + 11)).length) ++ paddingOf (packet.length + 11))
      else (.err "Large packet", setU16 packet 10 count ++ (optRecord 4096).bytes) := by
  generalize hp : setU16 packet 10 count ++ (optRecord 4096).bytes = packet'
  have hlen : packet'.length = packet.length + 11 := by
    rw [← hp, List.length_append, length_setU16]
    rfl
  have hrd : be16At packet' (packet.length + 1 + 8) = 0 := by
    rw [← hp, Nat.add_assoc, ← length_setU16 packet 10 count, be16At_append_right, optRecord_bytes]
    rfl
  have hfits : packet.length + 1 + (10 + (be16At packet' (packet.length + 1 + 8)).toNat) ≤
      packet'.length := by
    rw [hrd, hlen]
    exact le_rfl
  have hpad := padAt_of_fits hfits (by omega)
  rw [hrd, hlen, UInt16.zero_add, Nat.add_assoc] at hpad
  exact hpad

/-! ### No panic, and no packet too large -/

theorem minTtl_finished (packet : Packet) (lo hi failureTtl : UInt32) :
    (minTtl packet lo hi failureTtl).Finished := by
  refine Safe.finished (Q := fun _ => True) (safe_question fun hlen hp e hlt hle => ?_)
  refine (safe_usub hle).bind fun room _ hroom => safe_ensure.bind fun _ _ hfour => ?_
  rw [ancount, nscount, arcount, readU16_pos (by omega), ok_bind, readU16_pos (by omega), ok_bind,
    readU16_pos (by omega), ok_bind]
  refine (traverseRrs_safe (fun off s hoff => ?_) hp (by omega)).bind fun r _ _ => ?_
  · rw [readU16_pos (by omega), ok_bind, readU32_pos (by omega), ok_bind]
    trivial
  · exact safe_ensure.bind fun _ _ _ => trivial

/-- The cases of the additional section. -/
theorem additionalRecords_cases (packet : Packet) :
    (¬ ∃ rs, AdditionalRecords packet rs ∧ optCount rs ≤ 1) ∨
      (∃ rs, AdditionalRecords packet rs ∧ optCount rs = 0) ∨
      ∃ rs, AdditionalRecords packet rs ∧ optCount rs = 1 := by
  by_cases h : ∃ rs, AdditionalRecords packet rs ∧ optCount rs ≤ 1
  · obtain ⟨rs, hrs, hle⟩ := h
    rcases Nat.le_one_iff_eq_zero_or_eq_one.mp hle with hzero | hone
    · exact .inr (.inl ⟨rs, hrs, hzero⟩)
    · exact .inr (.inr ⟨rs, hrs, hone⟩)
  · exact .inl h

/-- **No packet gets too large** by padding, and padding ends. -/
theorem addEdnsPadding_spec (packet : Packet) : (addEdnsPadding packet).1.Finished ∧
    (addEdnsPadding packet).2.length ≤ max 4096 packet.length := by
  rcases additionalRecords_cases packet with hnot | ⟨rs, hrs, hzero⟩ | ⟨rs, hrs, hone⟩
  · obtain ⟨msg, h⟩ := addEdnsPadding_of_not hnot
    rw [h]
    exact ⟨trivial, le_max_right _ _⟩
  · rw [addEdnsPadding_of_none hrs hzero]
    split
    · next hle =>
      rw [padAt_optRecord hle]
      split
      · next hroom =>
        have hpad := length_add_paddingOf (show packet.length + 11 ≤ 4096 by omega)
        have := paddedLen_add_le_iff.mpr hroom
        simp only [List.length_append, length_setU16, optRecord_bytes, List.length_cons,
          List.length_nil, finished_ok, true_and]
        omega
      · simp only [List.length_append, length_setU16, optRecord_bytes, List.length_cons,
          List.length_nil, finished_err, true_and]
        omega
    · exact ⟨trivial, le_max_right _ _⟩
  · have hmax := hrs.1
    obtain ⟨e, -, he, h⟩ := addEdnsPadding_of_one hrs hone
    rw [h, padAt_of_fits he hmax]
    split
    · next hroom =>
      have hpad := length_add_paddingOf hmax
      have := paddedLen_add_le_iff.mpr hroom
      simp only [List.length_append, length_setU16, finished_ok, true_and]
      omega
    · exact ⟨trivial, le_max_right _ _⟩

theorem length_setEdnsMaxPayloadSize_le (packet : Packet) (size : UInt16) :
    (setEdnsMaxPayloadSize size packet).2.length ≤ max 4096 packet.length := by
  rcases additionalRecords_cases packet with hnot | ⟨rs, hrs, hzero⟩ | ⟨rs, hrs, hone⟩
  · obtain ⟨msg, packet', h, hset, hsame⟩ := setEdnsMaxPayloadSize_of_not size hnot
    rw [h]
    by_cases hopt : ∃ e, AdditionalOpt packet e
    · obtain ⟨e, he⟩ := hopt
      rw [hset e he, length_setU16]
      exact le_max_right _ _
    · rw [hsame fun e he => hopt ⟨e, he⟩]
      exact le_max_right _ _
  · rw [setEdnsMaxPayloadSize_of_none hrs hzero]
    split
    · simp only [List.length_append, length_setU16, optRecord_bytes, List.length_cons,
        List.length_nil]
      omega
    · exact le_max_right _ _
  · obtain ⟨e, he⟩ := hrs.exists_additionalOpt hone
    rw [setEdnsMaxPayloadSize_of_one hrs hone he, length_setU16]
    exact le_max_right _ _

/-- **The three functions end** with a result or an error on every byte string, and no packet
becomes larger than 4096 bytes by them. -/
theorem rewriters_finished (packet : Packet) (size : UInt16) (lo hi failureTtl : UInt32) :
    (setEdnsMaxPayloadSize size packet).1.Finished ∧ (minTtl packet lo hi failureTtl).Finished ∧
      (addEdnsPadding packet).1.Finished ∧
      (setEdnsMaxPayloadSize size packet).2.length ≤ max 4096 packet.length ∧
      (addEdnsPadding packet).2.length ≤ max 4096 packet.length :=
  ⟨(setEdnsMaxPayloadSize_spec size packet).1, minTtl_finished packet lo hi failureTtl,
    (addEdnsPadding_spec packet).1, length_setEdnsMaxPayloadSize_le packet size,
    (addEdnsPadding_spec packet).2⟩

/-! ### What an error leaves behind -/

/-- The OPT record's class is set before the walk fails: the first OPT record announces another
size, and the additional section does not hold whole records with one OPT record at most. -/
def ClassSetInVain (size : UInt16) (packet : Packet) : Prop :=
  (∃ e, AdditionalOpt packet e ∧ be16At packet (e + 2) ≠ size) ∧
    ¬ ∃ rs, AdditionalRecords packet rs ∧ optCount rs ≤ 1

/-- An OPT record is added before there turns out to be no room for the padding: there is none
yet, and the length is between 4070 and 4085. -/
def OptAddedInVain (packet : Packet) : Prop :=
  (∃ rs, AdditionalRecords packet rs ∧ optCount rs = 0) ∧ 4070 ≤ packet.length ∧
    packet.length ≤ 4085

theorem AdditionalRecords.unique {rs' : List Record} (h : AdditionalRecords packet rs)
    (h' : AdditionalRecords packet rs') : rs = rs' := by
  obtain ⟨-, -, off, next, hat, ⟨hd, -⟩, hn⟩ := h
  obtain ⟨-, -, off', next', hat', ⟨hd', -⟩, hn'⟩ := h'
  have hoff := hat.unique hat'
  subst hoff
  have hc := cutRecords_complete hd
  rw [hn, ← hn', cutRecords_complete hd', Outcome.ok.injEq, Prod.mk.injEq] at hc
  exact hc.1.symm

/-- The fields of the OPT record that is met lie in the packet. -/
theorem AdditionalOpt.le_length {e : ℕ} (h : AdditionalOpt packet e) : e + 10 ≤ packet.length := by
  obtain ⟨-, -, -, -, before, off', -, -, -, -, hle, -⟩ := h
  exact hle

theorem setEdnsMaxPayloadSize_unchanged_iff (packet : Packet) (size : UInt16) :
    (∀ msg packet', setEdnsMaxPayloadSize size packet = (.err msg, packet') → packet' = packet) ↔
      ¬ ClassSetInVain size packet := by
  rcases additionalRecords_cases packet with hnot | ⟨rs, hrs, hzero⟩ | ⟨rs, hrs, hone⟩
  · obtain ⟨msg, packet', h, hset, hsame⟩ := setEdnsMaxPayloadSize_of_not size hnot
    have hiff : (∀ msg packet', setEdnsMaxPayloadSize size packet = (.err msg, packet') →
        packet' = packet) ↔ packet' = packet := by
      rw [h]
      constructor
      · exact fun hall => hall _ _ rfl
      · rintro rfl msg' packet' h'
        exact (Prod.mk.inj h').2.symm
    rw [hiff]
    constructor
    · rintro rfl ⟨⟨e, he, hne⟩, -⟩
      have hle := he.le_length
      exact hne ((setU16_eq_self_iff (by omega)).mp (hset e he).symm)
    · intro hvain
      by_cases hopt : ∃ e, AdditionalOpt packet e
      · obtain ⟨e, he⟩ := hopt
        have hle := he.le_length
        rw [hset e he, setU16_eq_self_iff (by omega)]
        by_contra hne
        exact hvain ⟨⟨e, he, hne⟩, hnot⟩
      · exact hsame fun e he => hopt ⟨e, he⟩
  · refine iff_of_true (fun msg packet' h => ?_) fun hvain => hvain.2 ⟨rs, hrs, by omega⟩
    rw [setEdnsMaxPayloadSize_of_none hrs hzero] at h
    split at h
    · simp at h
    · exact (Prod.mk.inj h).2.symm
  · refine iff_of_true (fun msg packet' h => ?_) fun hvain => hvain.2 ⟨rs, hrs, by omega⟩
    obtain ⟨e, he⟩ := hrs.exists_additionalOpt hone
    rw [setEdnsMaxPayloadSize_of_one hrs hone he] at h
    simp at h

theorem addEdnsPadding_unchanged_iff (packet : Packet) :
    (∀ msg packet', addEdnsPadding packet = (.err msg, packet') → packet' = packet) ↔
      ¬ OptAddedInVain packet := by
  rcases additionalRecords_cases packet with hnot | ⟨rs, hrs, hzero⟩ | ⟨rs, hrs, hone⟩
  · obtain ⟨msg, h⟩ := addEdnsPadding_of_not hnot
    refine iff_of_true (fun msg' packet' h' => ?_) ?_
    · rw [h] at h'
      exact (Prod.mk.inj h').2.symm
    · rintro ⟨⟨rs, hrs, hzero⟩, -⟩
      exact hnot ⟨rs, hrs, by omega⟩
  · rw [addEdnsPadding_of_none hrs hzero]
    split
    · next hle =>
      rw [padAt_optRecord hle]
      split
      · next hroom => exact iff_of_true (by simp) fun hvain => by have := hvain.2.1; omega
      · next hroom =>
        refine iff_of_false (fun hall => ?_) (fun h => h ⟨⟨rs, hrs, hzero⟩, by omega, hle⟩)
        have hlen := congrArg List.length (hall _ _ rfl)
        simp [optRecord_bytes] at hlen
    · next hle =>
      refine iff_of_true (fun msg packet' h => (Prod.mk.inj h).2.symm) fun hvain => ?_
      exact hle hvain.2.2
  · obtain ⟨e, -, he, h⟩ := addEdnsPadding_of_one hrs hone
    rw [h, padAt_of_fits he hrs.1]
    refine iff_of_true (fun msg packet' h => ?_) ?_
    · split at h
      · simp at h
      · exact (Prod.mk.inj h).2.symm
    · rintro ⟨⟨rs', hrs', hzero⟩, -⟩
      rw [hrs.unique hrs'] at hone
      omega

/-- **When an error leaves the packet as it was**: when no class is set before the walk fails, and
no OPT record is added for want of which there is no room. -/
theorem rewriters_unchanged_iff (packet : Packet) (size : UInt16) :
    ((∀ msg packet', setEdnsMaxPayloadSize size packet = (.err msg, packet') → packet' = packet) ∧
      ∀ msg packet', addEdnsPadding packet = (.err msg, packet') → packet' = packet) ↔
      ¬ ClassSetInVain size packet ∧ ¬ OptAddedInVain packet :=
  and_congr (setEdnsMaxPayloadSize_unchanged_iff packet size) (addEdnsPadding_unchanged_iff packet)

/-- **A query with two OPT records** is refused with the class of the first one set. -/
theorem two_opts_changed :
    ∃ packet size msg packet', setEdnsMaxPayloadSize size packet = (.err msg, packet') ∧
      packet' ≠ packet := by
  refine ⟨(rootQuery [optRecord 1232, optRecord 1232] (by decide)).bytes, 4096,
    "Duplicate OPT RR found",
    (rootQuery [optRecord 4096, optRecord 1232] (by decide)).bytes, ?_, ?_⟩
  · decide +kernel
  · decide +kernel

end

end DohProxy.Dns
