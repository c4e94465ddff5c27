import DohProxy.Dns.EcsSafety
import DohProxy.Dns.Padding

/-!
# The OPT record among the additional records

`set_edns_max_payload_size` and `add_edns_padding` look for the OPT record by a walk that may write:
the one sets its class on the way, the other remembers where it stands.

## What is proved

* `traverseRrsMut_setPayload_iff` — the walk that writes succeeds on whole records with one OPT
  record at most: what it writes does not mislead it.
* `traverseRrsMut_setPayload_snd` — it writes the class of the first OPT record, whether it succeeds
  or not.
* `traverseRrs_findOpt_iff` — the walk that does not write succeeds on the same records.
-/

namespace DohProxy.Dns

open Lib Outcome

/-- Whole records stand from `off` up to `next`. -/
def RecordsAt (packet : Packet) (rs : List Record) (off next : ℕ) : Prop :=
  packet.drop off = recordsBytes rs ++ packet.drop next ∧ next = off + (recordsBytes rs).length

/-- After whole records, fewer than `n` and no OPT records, stand the name and ten bytes of an OPT
record, whose fields begin at `e`. -/
def FirstOptAt (packet : Packet) (n off e : ℕ) : Prop :=
  ∃ (before : List Record) (off' : ℕ), RecordsAt packet before off off' ∧ before.length < n ∧
    optCount before = 0 ∧ skipName packet off' = .ok e ∧ e + 10 ≤ packet.length ∧
    be16At packet e = dnsTypeOpt

section

variable {packet : Packet} {n off next e : ℕ} {size : UInt16}

theorem recordsAt_nil : RecordsAt packet [] off next ↔ next = off := by
  constructor
  · rintro ⟨-, h⟩
    exact h
  · rintro rfl
    exact ⟨rfl, rfl⟩

/-- The first record, by what `skip_name` and RDLENGTH say. -/
theorem recordsAt_cons {r : Record} {rs : List Record} (h : RecordsAt packet (r :: rs) off next) :
    ∃ e, skipName packet off = .ok e ∧ e + (10 + (be16At packet (e + 8)).toNat) ≤ packet.length ∧
      be16At packet e = r.rtype ∧
      RecordsAt packet rs (e + (10 + (be16At packet (e + 8)).toNat)) next := by
  obtain ⟨hd, rfl⟩ := h
  rw [recordsBytes_cons, List.append_assoc] at hd
  obtain ⟨hs, hrd, htype, hle⟩ := skipName_record hd
  rw [r.length_bytes] at hle
  refine ⟨_, hs, by omega, htype, ?_, ?_⟩
  · have := drop_of_drop _ hd
    rwa [hrd, Nat.add_assoc, ← r.length_bytes]
  · rw [hrd, recordsBytes_cons, List.length_append, r.length_bytes]
    omega

/-- **A walk over whole records**, one step. -/
theorem recordsAt_succ_iff (he : skipName packet off = .ok e) {Q : ℕ → Prop} :
    (∃ rs, rs.length = n + 1 ∧ RecordsAt packet rs off next ∧ Q (optCount rs)) ↔
      e + (10 + (be16At packet (e + 8)).toNat) ≤ packet.length ∧
      ∃ rs, rs.length = n ∧ RecordsAt packet rs (e + (10 + (be16At packet (e + 8)).toNat)) next ∧
        Q (optCount rs + if be16At packet e = dnsTypeOpt then 1 else 0) := by
  constructor
  · rintro ⟨rs, hn, hrs, hq⟩
    cases rs with
    | nil => cases hn
    | cons r rs =>
      obtain ⟨e', he', hle, htype, hrs⟩ := recordsAt_cons hrs
      rw [he, Outcome.ok.injEq] at he'
      subst he'
      rw [optCount_cons, ← htype] at hq
      exact ⟨hle, rs, Nat.succ.inj hn, hrs, hq⟩
  · rintro ⟨hle, rs, hn, hrs, hq⟩
    obtain ⟨r, hd, hnext, -, htype⟩ := exists_record he (by rwa [Nat.add_assoc])
    refine ⟨r :: rs, by rw [List.length_cons, hn], ⟨?_, ?_⟩, by rwa [optCount_cons, ← htype]⟩
    · rw [hd, recordsBytes_cons, List.append_assoc, ← hrs.1, Nat.add_assoc]
    · rw [hrs.2, recordsBytes_cons, List.length_append, ← Nat.add_assoc, hnext, Nat.add_assoc]

theorem not_recordsAt_of_short {rs : List Record} (hn : rs.length = n + 1)
    (h : ∀ e, skipName packet off = .ok e → packet.length < e + 10) :
    ¬ RecordsAt packet rs off next := by
  intro hrs
  cases rs with
  | nil => cases hn
  | cons r rs =>
    obtain ⟨e, he, hle, -⟩ := recordsAt_cons hrs
    have := h e he
    omega

/-- Bytes after a record do not depend on those in it. -/
theorem recordsAt_congr {packet' : Packet} {rs : List Record} {j : ℕ} (hj : j ≤ off)
    (h : ∀ i, j ≤ i → packet'.drop i = packet.drop i) :
    RecordsAt packet' rs off next ↔ RecordsAt packet rs off next := by
  unfold RecordsAt
  refine and_congr_left fun hnext => ?_
  rw [h off hj, h next (by omega)]

/-! ### The walk that sets the class -/

/-- The search, one step. -/
theorem firstOptAt_succ_iff (he : skipName packet off = .ok e) (hten : e + 10 ≤ packet.length)
    {e' : ℕ} : FirstOptAt packet (n + 1) off e' ↔
      if be16At packet e = dnsTypeOpt then e' = e
      else e + (10 + (be16At packet (e + 8)).toNat) ≤ packet.length ∧
        FirstOptAt packet n (e + (10 + (be16At packet (e + 8)).toNat)) e' := by
  constructor
  · rintro ⟨before, off', hrs, hn, hno, he', hten', hopt⟩
    cases before with
    | nil =>
      rw [recordsAt_nil] at hrs
      subst hrs
      rw [he, Outcome.ok.injEq] at he'
      subst he'
      rw [if_pos hopt]
    | cons r rs =>
      obtain ⟨e₁, he₁, hle, htype, hrs⟩ := recordsAt_cons hrs
      rw [he, Outcome.ok.injEq] at he₁
      subst he₁
      rw [optCount_cons, ← htype] at hno
      rw [if_neg fun ht => by rw [if_pos ht] at hno; omega]
      exact ⟨hle, rs, off', hrs, Nat.lt_of_succ_lt_succ hn, by omega, he', hten', hopt⟩
  · split
    · next ht =>
      rintro rfl
      exact ⟨[], off, recordsAt_nil.mpr rfl, Nat.succ_pos n, rfl, he, hten, ht⟩
    · next ht =>
      rintro ⟨hle, before, off', hrs, hn, hno, h⟩
      obtain ⟨rs, hlen, hrs, hno⟩ := (recordsAt_succ_iff he (Q := fun k => k = 0)).mpr
        ⟨hle, before, rfl, hrs, by rw [if_neg ht, hno]⟩
      exact ⟨rs, off', hrs, by omega, hno, h⟩

theorem not_firstOptAt_of_short (h : ∀ e, skipName packet off = .ok e → packet.length < e + 10)
    {e' : ℕ} : ¬ FirstOptAt packet (n + 1) off e' := by
  rintro ⟨before, off', hrs, -, -, he', hten', -⟩
  cases before with
  | nil =>
    rw [recordsAt_nil] at hrs
    subst hrs
    have := h _ he'
    omega
  | cons r rs => exact not_recordsAt_of_short rfl h hrs

/-- One OPT record among whole records is the first one. -/
theorem firstOptAt_of_split {before after : List Record} {opt : Record}
    (hrs : RecordsAt packet (before ++ opt :: after) off next) (hopt : opt.rtype = dnsTypeOpt)
    (hno : ∀ r ∈ before ++ after, r.rtype ≠ dnsTypeOpt) :
    FirstOptAt packet (before ++ opt :: after).length off
      (off + (recordsBytes before).length + opt.name.bytes.length) := by
  obtain ⟨hd, -⟩ := hrs
  rw [recordsBytes_append, List.append_assoc] at hd
  have hd' := drop_of_drop _ hd
  have hrec : RecordsAt packet before off (off + (recordsBytes before).length) :=
    ⟨by rw [hd, hd'], rfl⟩
  rw [recordsBytes_cons, List.append_assoc] at hd'
  obtain ⟨hs, -, htype, hle⟩ := skipName_record hd'
  rw [opt.length_bytes] at hle
  refine ⟨before, _, hrec, ?_, ?_, hs, by omega, htype.trans hopt⟩
  · rw [List.length_append, List.length_cons]
    omega
  · exact optCount_eq_zero_iff.mpr fun r hr => hno r (List.mem_append_left _ hr)

/-- The packet after the fields that are set stays as it is. -/
theorem drop_setClass {i : ℕ} (hi : e + 4 ≤ i) :
    (setU16 packet (e + 2) size).drop i = packet.drop i := drop_setU16 _ _ (by omega)

/-- The walk fails where no record stands. -/
theorem traverseRrsMut_setPayload_of_short (size : UInt16) (set : Bool) (hp : packet ≠ [])
    (h : ∀ e, skipName packet off = .ok e → packet.length < e + 10) :
    ∃ msg, traverseRrsMut packet.length (setPayload size) (n + 1) off set packet =
      (.err msg, packet) :=
  traverseRrsMut_succ_of_short hp h

/-- **The walk that sets the class succeeds** on whole records of which one at most is an OPT
record. -/
theorem traverseRrsMut_setPayload_iff (size : UInt16) : ∀ {n off : ℕ} (set set' : Bool)
    {packet : Packet}, packet ≠ [] →
    ((traverseRrsMut packet.length (setPayload size) n off set packet).1 = .ok (next, set') ↔
      ∃ rs, rs.length = n ∧ RecordsAt packet rs off next ∧
        optCount rs + set.toNat ≤ 1 ∧ set'.toNat = optCount rs + set.toNat) := by
  intro n
  induction n with
  | zero =>
    intro off set set' packet hp
    simp only [traverseRrsMut, Proc.pure_apply, Outcome.ok.injEq, Prod.mk.injEq]
    constructor
    · rintro ⟨rfl, rfl⟩
      exact ⟨[], rfl, recordsAt_nil.mpr rfl, by cases set <;> decide, by simp [optCount]⟩
    · rintro ⟨rs, hn, hrs, -, hset⟩
      rw [List.length_eq_zero_iff] at hn
      subst hn
      refine ⟨(recordsAt_nil.mp hrs).symm, ?_⟩
      cases set <;> cases set' <;> simp_all [optCount]
  | succ n ih =>
    intro off set set' packet hp
    rcases fields_or_short packet off with ⟨e, he, hten⟩ | hshort
    · rw [recordsAt_succ_iff he (Q := fun k => k + set.toNat ≤ 1 ∧ set'.toNat = k + set.toNat)]
      -- the packet after the callback, which is the same after the class
      have hrest : ∀ {set₁ : Bool} {packet₁ : Packet},
          setPayload size e set packet = (.ok set₁, packet₁) →
          set₁.toNat = (if be16At packet e = dnsTypeOpt then 1 else 0) + set.toNat →
          packet₁.length = packet.length →
          (∀ i, e + 4 ≤ i → packet₁.drop i = packet.drop i) →
          ((traverseRrsMut packet.length (setPayload size) (n + 1) off set packet).1 =
              .ok (next, set') ↔
            e + (10 + (be16At packet (e + 8)).toNat) ≤ packet.length ∧
            ∃ rs, rs.length = n ∧
              RecordsAt packet rs (e + (10 + (be16At packet (e + 8)).toNat)) next ∧
              optCount rs + (if be16At packet e = dnsTypeOpt then 1 else 0) + set.toNat ≤ 1 ∧
              set'.toNat =
                optCount rs + (if be16At packet e = dnsTypeOpt then 1 else 0) + set.toNat) := by
        intro set₁ packet₁ hcb hset₁ hlen hdrop
        have hp₁ : packet₁ ≠ [] := by rintro rfl; exact hp (List.length_eq_zero_iff.mp hlen.symm)
        have hrd : be16At packet₁ (e + 8) = be16At packet (e + 8) := by
          rw [← Nat.add_zero (e + 8), ← be16At_drop, ← be16At_drop, hdrop _ (by omega)]
        rw [traverseRrsMut_succ he hten hcb hlen, hrd]
        split
        · next hle =>
          rw [ih set₁ set' hp₁, hset₁]
          refine Iff.trans ?_ (and_iff_right hle).symm
          refine exists_congr fun rs => and_congr_right fun _ => ?_
          rw [recordsAt_congr (show e + 4 ≤ _ by omega) hdrop, Nat.add_assoc (optCount rs)]
        · next hle => simp [hle]
      have hcb := setPayload_apply size set hten
      split at hcb
      · next ht =>
        split at hcb
        · next hset =>
          exact hrest hcb (by rw [if_pos ht, hset]; rfl) (by simp) fun i hi => drop_setClass hi
        · next hset =>
          rw [traverseRrsMut_succ_err he hten hcb, if_pos ht]
          refine iff_of_false (by simp) ?_
          rintro ⟨-, rs, -, -, h, -⟩
          rw [Bool.not_eq_false] at hset
          rw [hset, Bool.toNat_true] at h
          omega
      · next ht => exact hrest hcb (by rw [if_neg ht, Nat.zero_add]) rfl fun _ _ => rfl
    · obtain ⟨msg, h⟩ := traverseRrsMut_setPayload_of_short (n := n) size set hp hshort
      rw [h]
      refine iff_of_false (by simp) ?_
      rintro ⟨rs, hn, hrs, -⟩
      exact not_recordsAt_of_short hn hshort hrs

/-- After an OPT record the walk writes no more. -/
theorem traverseRrsMut_setPayload_true : ∀ {n off : ℕ}, packet ≠ [] →
    (traverseRrsMut packet.length (setPayload size) n off true packet).2 = packet := by
  intro n
  induction n with
  | zero => exact fun _ => rfl
  | succ n ih =>
    intro off hp
    rcases fields_or_short packet off with ⟨e, he, hten⟩ | hshort
    · have hcb := setPayload_apply size true hten
      split at hcb
      · rw [if_neg (by decide)] at hcb
        rw [traverseRrsMut_succ_err he hten hcb]
      · rw [traverseRrsMut_succ he hten hcb rfl]
        split
        · exact ih hp
        · rfl
    · obtain ⟨msg, h⟩ := traverseRrsMut_setPayload_of_short (n := n) size true hp hshort
      rw [h]

/-- **What the walk leaves behind**, whether it succeeds or not: the class of the first OPT record
is set. -/
theorem traverseRrsMut_setPayload_snd (size : UInt16) : ∀ (n off : ℕ), packet ≠ [] →
    (∀ e, FirstOptAt packet n off e →
      (traverseRrsMut packet.length (setPayload size) n off false packet).2 =
        setU16 packet (e + 2) size) ∧
    ((∀ e, ¬ FirstOptAt packet n off e) →
      (traverseRrsMut packet.length (setPayload size) n off false packet).2 = packet) := by
  intro n
  induction n with
  | zero =>
    intro off hp
    refine ⟨?_, fun _ => rfl⟩
    rintro e ⟨before, _, -, h, -⟩
    omega
  | succ n ih =>
    intro off hp
    rcases fields_or_short packet off with ⟨e, he, hten⟩ | hshort
    · have hcb := setPayload_apply size false hten
      rw [if_pos rfl] at hcb
      simp only [firstOptAt_succ_iff he hten]
      split at hcb
      · next ht =>
        have hlen : (setU16 packet (e + 2) size).length = packet.length := length_setU16 _ _ _
        have hp₁ : setU16 packet (e + 2) size ≠ [] := by
          intro h
          rw [h] at hlen
          exact hp (List.length_eq_zero_iff.mp hlen.symm)
        have hset : (traverseRrsMut packet.length (setPayload size) (n + 1) off false packet).2 =
            setU16 packet (e + 2) size := by
          rw [traverseRrsMut_succ he hten hcb hlen]
          split
          · exact traverseRrsMut_setPayload_true hp₁
          · rfl
        simp only [if_pos ht]
        refine ⟨?_, fun hno => absurd rfl (hno e)⟩
        rintro e' rfl
        exact hset
      · next ht =>
        simp only [if_neg ht]
        rw [traverseRrsMut_succ he hten hcb rfl]
        split
        · next hle =>
          simp only [hle, true_and]
          exact ih _ hp
        · next hle => exact ⟨fun _ h => absurd h.1 hle, fun _ => rfl⟩
    · obtain ⟨msg, h⟩ := traverseRrsMut_setPayload_of_short (n := n) size false hp hshort
      exact ⟨fun e he => absurd he (not_firstOptAt_of_short hshort), fun _ => by rw [h]⟩

/-! ### The walk that only looks -/

/-- **The walk that remembers where the OPT record stands** succeeds on the same records. -/
theorem traverseRrs_findOpt_iff {found : Option ℕ} (hoff : off ≤ packet.length) :
    traverseRrs packet (findOpt packet) n off none = .ok (next, found) ↔
      ∃ rs, rs.length = n ∧ RecordsAt packet rs off next ∧ optCount rs ≤ 1 ∧
        found = optOffset rs off := by
  constructor
  · intro h
    obtain ⟨rs, rfl, hd, rfl, -⟩ := traverseRrs_sound hoff h
    rw [traverseRrs_records _ hd, foldOffsets_findOpt hd] at h
    split at h
    · next hone =>
      simp only [ok_bind, Outcome.ok.injEq, Prod.mk.injEq, true_and] at h
      exact ⟨rs, rfl, ⟨hd, rfl⟩, hone, h.symm⟩
    · cases h
  · rintro ⟨rs, rfl, ⟨hd, rfl⟩, hone, rfl⟩
    rw [traverseRrs_records _ hd, foldOffsets_findOpt hd, if_pos hone, ok_bind]

theorem traverseRrs_findOpt_finished (hp : packet ≠ []) (hoff : off ≤ packet.length) :
    (traverseRrs packet (findOpt packet) n off none).Finished := by
  refine (traverseRrs_safe (fun e s he => ?_) hp hoff).finished
  rw [findOpt, readU16_pos (by omega), ok_bind]
  split
  · exact (safe_ensure.bind fun _ _ _ => (safe_ok (Q := fun _ => True) _).mpr trivial).finished
  · trivial

/-! ### The additional section -/

/-- The additional section holds the records `rs`. After them the packet may go on. -/
def AdditionalRecords (packet : Packet) (rs : List Record) : Prop :=
  packet.length ≤ 4096 ∧ be16At packet 4 = 1 ∧ ∃ off next, AdditionalAt packet off ∧
    RecordsAt packet rs off next ∧ rs.length = (be16At packet 10).toNat

/-- The fields of the additional section's first OPT record begin at `e`. What stands after its
first ten bytes may be anything. -/
def AdditionalOpt (packet : Packet) (e : ℕ) : Prop :=
  packet.length ≤ 4096 ∧ be16At packet 4 = 1 ∧
    ∃ off, AdditionalAt packet off ∧ FirstOptAt packet (be16At packet 10).toNat off e

/-- No message of 4096 bytes has too many records. -/
theorem AdditionalRecords.count_lt {rs : List Record} (h : AdditionalRecords packet rs) :
    be16At packet 10 < 0xffff := by
  obtain ⟨hmax, -, off, next, -, ⟨hd, -⟩, hn⟩ := h
  have hlen := congrArg List.length hd
  have hle := length_le_recordsBytes rs
  rw [List.length_append, List.length_drop] at hlen
  rw [UInt16.lt_iff_toNat_lt, ← hn]
  exact lt_of_le_of_lt (show rs.length ≤ 4096 by omega) (by decide)

end

end DohProxy.Dns
