import DohProxy.Lib.Bytes

/-!
# Walking a DNS packet

The header accessors and the two walkers of `dns.rs` that every rewriter of the
proxy is built on: `skipName` moves past an owner name without following
compression pointers, `traverseRrs` past a number of resource records, calling
back with the offset after each owner name; `traverseRrsMut` is the same for a
callback that may write to the packet.

## The model

A packet is a list of bytes; an offset is a natural number. Slicing and indexing
panic outside the packet and subtractions panic below zero (`Lib.Outcome`). The
loop of `skipName` moves forward by at least one byte each time round, so the
packet's length is fuel enough (`skipName_safe` proves that it never runs out).

## What is proved

A name as `skipName` sees it is a `RawName`: labels, then a root byte or a
compression pointer. `skipName_sound` and `skipName_complete` say that `skipName`
succeeds exactly on these, so what it returns depends only on the bytes of the
name and on there being a byte after it.
-/

namespace DohProxy.Dns

open Lib Outcome

/-- A packet. -/
abbrev Packet := List UInt8

/-- The text of an error. -/
abbrev Error := String

/-- The size of the header. -/
@[simp] abbrev dnsHeaderSize : ℕ := 12

/-- The largest name `skipName` accepts, in octets. -/
@[simp] abbrev dnsMaxHostnameSize : ℕ := 256

/-- The largest packet the rewriters accept. -/
@[simp] abbrev dnsMaxPacketSize : ℕ := 4096

/-- Where the question starts. -/
@[simp] abbrev dnsOffsetQuestion : ℕ := dnsHeaderSize

/-- The OPT pseudo-record's type. -/
def dnsTypeOpt : UInt16 := 41

/-- The response code. -/
def rcode (packet : Packet) : Outcome Error UInt8 := do
  let b ← index packet 3
  return b &&& 0x0f

/-- The number of questions. -/
def qdcount (packet : Packet) : Outcome Error UInt16 := readU16 packet 4

/-- The number of answer records. -/
def ancount (packet : Packet) : Outcome Error UInt16 := readU16 packet 6

/-- The number of authority records. -/
def nscount (packet : Packet) : Outcome Error UInt16 := readU16 packet 8

/-- The number of additional records. -/
def arcount (packet : Packet) : Outcome Error UInt16 := readU16 packet 10

/-- The loop of `skip_name`, with the octets of the name counted so far. -/
def skipNameLoop (packet : Packet) : ℕ → ℕ → ℕ → Outcome Error ℕ
  | 0, _, _ => .timeout
  | fuel + 1, qnameLen, offset => do
    let labelLen ← index packet offset
    if labelLen &&& 0xc0 = 0xc0 then
      ensure ((← usub packet.length offset) ≥ 2) "Incomplete offset"
      return offset + 2
    else
      ensure (labelLen.toNat < 0x40) "Long label"
      ensure ((← usub (← usub packet.length offset) 1) > labelLen.toNat)
        "Malformed packet with an out-of-bounds name"
      let qnameLen := qnameLen + (labelLen.toNat + 1)
      ensure (qnameLen ≤ dnsMaxHostnameSize) "Name too long"
      let offset := offset + (labelLen.toNat + 1)
      if labelLen.toNat = 0 then return offset
      else skipNameLoop packet fuel qnameLen offset

/-- The offset after the name at `offset`. -/
def skipName (packet : Packet) (offset : ℕ) : Outcome Error ℕ := do
  ensure (offset < (← usub packet.length 1)) "Short packet"
  skipNameLoop packet packet.length 0 offset

section

variable {σ : Type}

/-- The offset after `rrcount` resource records, and what the callback made of them. -/
def traverseRrs (packet : Packet) (cb : ℕ → σ → Outcome Error σ) :
    ℕ → ℕ → σ → Outcome Error (ℕ × σ)
  | 0, offset, s => return (offset, s)
  | rrcount + 1, offset, s => do
    let offset ← skipName packet offset
    ensure ((← usub packet.length offset) ≥ 10) "Short packet"
    let s ← cb offset s
    let rdlen ← readU16 packet (offset + 8)
    let offset := offset + 10
    ensure ((← usub packet.length offset) ≥ rdlen.toNat) "Record length would exceed packet length"
    traverseRrs packet cb rrcount (offset + rdlen.toNat) s

/-- As `traverseRrs`, with a callback that may write to the packet. The packet keeps
its length. -/
def traverseRrsMut (packetLen : ℕ) (cb : ℕ → σ → Proc Packet Error σ) :
    ℕ → ℕ → σ → Proc Packet Error (ℕ × σ)
  | 0, offset, s => return (offset, s)
  | rrcount + 1, offset, s => do
    let offset ← Proc.reads fun packet => skipName packet offset
    let room ← Proc.lift (usub packetLen offset)
    Proc.lift (ensure (room ≥ 10) "Short packet")
    let s ← cb offset s
    let rdlen ← Proc.reads fun packet => readU16 packet (offset + 8)
    let offset := offset + 10
    let room ← Proc.lift (usub packetLen offset)
    Proc.lift (ensure (room ≥ rdlen.toNat) "Record length would exceed packet length")
    traverseRrsMut packetLen cb rrcount (offset + rdlen.toNat) s

end

/-! ### Raw names -/

/-- The bytes of a name as it stands in a packet, its pointer not followed, and the
octets `skip_name` counts for it. -/
inductive RawName : ℕ → List UInt8 → Prop where
  /-- The root byte. -/
  | root : RawName 1 [0]
  /-- A compression pointer, for which nothing is counted. -/
  | pointer {h l : UInt8} : 192 ≤ h.toNat → RawName 0 [h, l]
  /-- A label, with its length before it. -/
  | label {len : UInt8} {bs nm : List UInt8} {q : ℕ} : 0 < len.toNat → len.toNat < 64 →
      bs.length = len.toNat → RawName q nm → RawName (len.toNat + 1 + q) (len :: (bs ++ nm))

theorem RawName.ne_nil {q : ℕ} {nm : List UInt8} (h : RawName q nm) : nm ≠ [] := by
  cases h <;> simp

theorem RawName.length_pos {q : ℕ} {nm : List UInt8} (h : RawName q nm) : 0 < nm.length :=
  List.length_pos_iff.mpr h.ne_nil

/-! ### The loop, one label at a time -/

section

variable {packet : Packet} {fuel q₀ off : ℕ} {post : List UInt8}

theorem skipNameLoop_root (hd : packet.drop off = 0 :: post) (hp : post ≠ []) (hq : q₀ + 1 ≤ 256) :
    skipNameLoop packet (fuel + 1) q₀ off = .ok (off + 1) := by
  have hlen := length_of_drop hd (by simp)
  have := List.length_pos_iff.mpr hp
  rw [List.length_cons] at hlen
  have h1 : off ≤ packet.length := by omega
  have h2 : 1 ≤ packet.length - off := by omega
  have h3 : packet.length - off - 1 > 0 := by omega
  simp only [skipNameLoop, index_of_drop hd, ok_bind, usub_pos h1, usub_pos h2]
  simp [h3, hq]

theorem skipNameLoop_pointer {h l : UInt8} (hd : packet.drop off = h :: l :: post)
    (hh : 192 ≤ h.toNat) :
    skipNameLoop packet (fuel + 1) q₀ off = .ok (off + 2) := by
  have hlen := length_of_drop hd (by simp)
  simp only [List.length_cons] at hlen
  have h1 : off ≤ packet.length := by omega
  have h2 : packet.length - off ≥ 2 := by omega
  simp only [skipNameLoop, index_of_drop hd, ok_bind, usub_pos h1]
  simp [and_c0_eq_c0_iff, hh, h2]

theorem skipNameLoop_label {len : UInt8} {bs : List UInt8}
    (hd : packet.drop off = len :: (bs ++ post))
    (hpos : 0 < len.toNat) (hlt : len.toNat < 64) (hbs : bs.length = len.toNat) (hp : post ≠ [])
    (hq : q₀ + (len.toNat + 1) ≤ 256) :
    skipNameLoop packet (fuel + 1) q₀ off =
      skipNameLoop packet fuel (q₀ + (len.toNat + 1)) (off + (len.toNat + 1)) := by
  have hlen := length_of_drop hd (by simp)
  have := List.length_pos_iff.mpr hp
  simp only [List.length_cons, List.length_append] at hlen
  have h1 : off ≤ packet.length := by omega
  have h2 : 1 ≤ packet.length - off := by omega
  have h3 : packet.length - off - 1 > len.toNat := by omega
  simp only [skipNameLoop, index_of_drop hd, ok_bind, usub_pos h1, usub_pos h2]
  simp [and_c0_eq_c0_iff, h3, hq, hlt, hpos.ne', show ¬ 192 ≤ len.toNat by omega]

end

/-- **`skip_name` accepts every raw name** of at most 256 octets with a byte after it. -/
theorem skipNameLoop_complete {packet : Packet} {q : ℕ} {nm : List UInt8} (hnm : RawName q nm) :
    ∀ {fuel q₀ off : ℕ} {post : List UInt8}, packet.drop off = nm ++ post → post ≠ [] →
      nm.length ≤ fuel → q₀ + q ≤ 256 → skipNameLoop packet fuel q₀ off =
        .ok (off + nm.length) := by
  induction hnm with
  | root =>
    intro fuel q₀ off post hd hp hf hq
    obtain ⟨fuel, rfl⟩ := Nat.exists_eq_succ_of_ne_zero (Nat.pos_iff_ne_zero.mp hf)
    exact skipNameLoop_root hd hp hq
  | pointer hh =>
    intro fuel q₀ off post hd hp hf hq
    obtain ⟨fuel, rfl⟩ := Nat.exists_eq_succ_of_ne_zero
      (Nat.pos_iff_ne_zero.mp (Nat.lt_of_succ_le hf).pos)
    exact skipNameLoop_pointer hd hh
  | @label len bs nm q hpos hlt hbs hnm ih =>
    intro fuel q₀ off post hd hp hf hq
    simp only [List.length_cons, List.length_append, hbs] at hf ⊢
    obtain ⟨fuel, rfl⟩ := Nat.exists_eq_succ_of_ne_zero
      (Nat.pos_iff_ne_zero.mp (Nat.lt_of_succ_le hf).pos)
    have hd₁ : packet.drop off = len :: (bs ++ (nm ++ post)) := by rw [hd]; simp
    have hd₂ : packet.drop (off + (len.toNat + 1)) = nm ++ post := by
      have hd₂ : packet.drop off = (len :: bs) ++ (nm ++ post) := hd₁
      have := drop_of_drop (len :: bs) hd₂
      rwa [List.length_cons, hbs] at this
    rw [skipNameLoop_label hd₁ hpos hlt hbs (by simp [hnm.ne_nil]) (by omega),
      ih hd₂ hp (by omega) (by omega)]
    congr 1; omega

/-- **`skip_name` accepts nothing else**, and it stops right after the name. -/
theorem skipNameLoop_sound {packet : Packet} : ∀ {fuel q₀ off e : ℕ}, q₀ ≤ 256 →
    skipNameLoop packet fuel q₀ off = .ok e →
      ∃ q nm, RawName q nm ∧ q₀ + q ≤ 256 ∧ packet.drop off = nm ++ packet.drop e ∧
        e = off + nm.length ∧ e ≤ packet.length := by
  intro fuel
  induction fuel with
  | zero => intro q₀ off e _ h; simp [skipNameLoop] at h
  | succ fuel ih =>
    intro q₀ off e hq h
    simp only [skipNameLoop, bind_eq_ok, index_eq_ok] at h
    obtain ⟨b, hb, h⟩ := h
    have hd := drop_of_getElem? hb
    split at h
    · next hc =>
      -- a compression pointer ends the name
      simp only [bind_eq_ok, usub_eq_ok, ensure_eq_ok, pure_eq_ok, Outcome.ok.injEq] at h
      obtain ⟨room, ⟨hle, rfl⟩, _, hroom, rfl⟩ := h
      have hd' : packet.drop (off + 1) = packet[off + 1] :: packet.drop (off + 2) :=
        List.drop_eq_getElem_cons (by omega)
      refine ⟨0, [b, packet[off + 1]], .pointer ((and_c0_eq_c0_iff b).mp hc), hq, ?_, rfl, by omega⟩
      rw [hd, hd']; rfl
    · simp only [bind_eq_ok, usub_eq_ok, ensure_eq_ok] at h
      obtain ⟨_, hlt, _, ⟨hle, rfl⟩, _, ⟨hle', rfl⟩, _, hroom, _, hq', h⟩ := h
      rw [dnsMaxHostnameSize] at hq'
      split at h
      · next hz =>
        -- the root byte ends the name
        simp only [pure_eq_ok, Outcome.ok.injEq, hz, Nat.zero_add] at h
        have hb0 : b = 0 := UInt8.toNat_inj.mp hz
        subst h hb0
        exact ⟨1, [0], .root, by omega, by rw [hd]; rfl, rfl, by omega⟩
      · next hz =>
        obtain ⟨q, nm, hnm, hq₁, hd₁, rfl, he⟩ := ih hq' h
        have hsplit : packet.drop (off + 1) =
            (packet.drop (off + 1)).take b.toNat ++ packet.drop (off + (b.toNat + 1)) := by
          conv_lhs => rw [← List.take_append_drop b.toNat (packet.drop (off + 1))]
          rw [List.drop_drop]; congr 2; omega
        have hlen : ((packet.drop (off + 1)).take b.toNat).length = b.toNat := by
          rw [List.length_take, List.length_drop]; omega
        refine ⟨_, _, .label (by omega) hlt hlen hnm, by omega, ?_,
          by simp only [List.length_cons, List.length_append]; omega, he⟩
        rw [hd, List.cons_append, List.append_assoc, ← hd₁, ← hsplit]

/-- The loop does not panic, and there is fuel enough. -/
theorem skipNameLoop_safe {packet : Packet} : ∀ {fuel q₀ off : ℕ}, off < packet.length →
    packet.length ≤ off + fuel → Safe (fun e => off < e ∧ e ≤ packet.length)
      (skipNameLoop packet fuel q₀ off) := by
  intro fuel
  induction fuel with
  | zero => intro q₀ off h h'; omega
  | succ fuel ih =>
    intro q₀ off hoff hfuel
    rw [skipNameLoop, index_pos hoff, ok_bind]
    split
    · refine (safe_usub (by omega)).bind fun room _ hroom => ?_
      refine safe_ensure.bind fun _ _ h2 => ?_
      exact ⟨by omega, by omega⟩
    · refine safe_ensure.bind fun _ _ hlt => ?_
      refine (safe_usub (by omega)).bind fun room _ hroom => ?_
      refine (safe_usub (by omega)).bind fun room' _ hroom' => ?_
      refine safe_ensure.bind fun _ _ hbs => ?_
      refine safe_ensure.bind fun _ _ _ => ?_
      split
      · exact ⟨by omega, by omega⟩
      · exact (ih (by omega) (by omega)).mono fun e he => ⟨by omega, he.2⟩

/-- **`skip_name` ends with an offset further on in the packet or with an error.** -/
theorem skipName_safe {packet : Packet} (h : packet ≠ []) (off : ℕ) :
    Safe (fun e => off < e ∧ e ≤ packet.length) (skipName packet off) := by
  have hpos := List.length_pos_iff.mpr h
  refine (safe_usub hpos).bind fun room _ hroom => ?_
  refine safe_ensure.bind fun _ _ hlt => ?_
  exact skipNameLoop_safe (by omega) (by omega)

/-- A name `skip_name` accepts: at most 256 octets. -/
def IsName (nm : List UInt8) : Prop := ∃ q ≤ dnsMaxHostnameSize, RawName q nm

theorem IsName.length_pos {nm : List UInt8} : IsName nm → 0 < nm.length :=
  fun ⟨_, _, h⟩ => h.length_pos

theorem skipName_sound {packet : Packet} {off e : ℕ} (h : skipName packet off = .ok e) :
    ∃ nm, IsName nm ∧ packet.drop off = nm ++ packet.drop e ∧ e = off + nm.length ∧
      e ≤ packet.length := by
  simp only [skipName, bind_eq_ok] at h
  obtain ⟨_, -, _, -, h⟩ := h
  obtain ⟨q, nm, hnm, hq, hd, he, hle⟩ := skipNameLoop_sound (Nat.zero_le _) h
  exact ⟨nm, ⟨q, by simpa using hq, hnm⟩, hd, he, hle⟩

theorem skipName_complete {packet : Packet} {off : ℕ} {nm post : List UInt8} (hnm : IsName nm)
    (hd : packet.drop off = nm ++ post) (hp : post ≠ []) : skipName packet off =
      .ok (off + nm.length) := by
  obtain ⟨q, hq, hnm⟩ := hnm
  have hlen := length_of_drop hd (by simp [hp])
  have := hnm.length_pos
  have := List.length_pos_iff.mpr hp
  rw [List.length_append] at hlen
  have h1 : off < packet.length - 1 := by omega
  simp only [skipName, usub_pos (show 1 ≤ packet.length by omega), ok_bind, ensure_pos h1]
  exact skipNameLoop_complete hnm hd hp (by omega) (by simpa using hq)

/-- A packet that is the same up to the end of a name has the name. -/
theorem skipName_congr {packet packet' : Packet} {off e : ℕ} (h : skipName packet off = .ok e)
    (htake : packet'.take e = packet.take e)
      (hlt : e < packet'.length) : skipName packet' off = .ok e := by
  obtain ⟨nm, hnm, hd, rfl, -⟩ := skipName_sound h
  exact skipName_complete hnm (drop_of_take_eq htake (Nat.le_add_right _ _) hd) (by simpa using hlt)

end DohProxy.Dns
