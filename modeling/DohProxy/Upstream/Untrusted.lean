import DohProxy.Bootstrap.Reply
import DohProxy.Upstream.Rewrite

/-!
# Reading what a stranger sends

Whoever can send to the proxy chooses the bytes of a reply, and those of a query. This is about
all that reads them: the parser and the rewriter of `msg.rs`, and the reader of bootstrap replies.

## What is proved

`reads_any_packet` — **whatever the bytes are, every reader comes to a result without looking
outside the packet, and every walker moves forward and stays inside.**
-/

namespace DohProxy.Upstream

open Lib Outcome Net Dns Bootstrap

variable {packet : List UInt8}

/-! ### The walker of the rewriter -/

theorem Name.skipWireLoop_safe : ∀ {fuel off : ℕ}, 0 < fuel → packet.length < fuel + off →
    Safe (fun next => off < next ∧ next ≤ packet.length) (skipWireLoop packet fuel off) := by
  intro fuel
  induction fuel with
  | zero => exact fun h => absurd h (Nat.lt_irrefl _)
  | succ fuel ih =>
    intro off _ hfuel
    rw [skipWireLoop]
    cases hb : packet[off]? with
    | none => trivial
    | some len =>
      have hlt := (List.getElem?_eq_some_iff.mp hb).1
      dsimp only
      split
      · cases hl : packet[off + 1]? with
        | none => trivial
        | some low =>
          have := (List.getElem?_eq_some_iff.mp hl).1
          exact ⟨by omega, by omega⟩
      · split
        · refine safe_ensure.bind fun _ _ _ => ?_
          split
          · exact ⟨by omega, by omega⟩
          · refine safe_ensure.bind fun _ _ hin =>
              (ih (by omega) (by omega)).mono fun next hnext => ?_
            exact ⟨by omega, hnext.2⟩
        · trivial

theorem Name.skipWire_safe (packet : List UInt8) (off : ℕ) :
    Safe (fun next => off < next ∧ next ≤ packet.length) (Name.skipWire packet off) :=
  skipWireLoop_safe (Nat.succ_pos _) (by omega)

theorem Msg.qtypeFromPacket_finished (packet : List UInt8) :
    (Msg.qtypeFromPacket packet).Finished := by
  rw [qtypeFromPacket]
  generalize (if 6 ≤ packet.length then be16At packet 4 else 0) = qdcount
  split
  · trivial
  · have h := Name.skipWire_safe packet dnsHeaderSize
    cases hs : Name.skipWire packet dnsHeaderSize with
    | ok next =>
      rw [option, ok_bind]
      dsimp only
      split
      · trivial
      · rw [readU16_pos (by omega), ok_bind]
        trivial
    | err => trivial
    | panic => rw [hs] at h; exact h.elim
    | timeout => rw [hs] at h; exact h.elim

/-! ### The rewriter -/

theorem skipQuestions_finished : ∀ {n off : ℕ}, (skipQuestions packet n off).Finished := by
  intro n
  induction n with
  | zero => exact fun {_} => trivial
  | succ n ih =>
    intro off
    refine Safe.finished (Q := fun _ => True)
      ((Name.skipWire_safe packet off).bind fun next _ _ => ?_)
    exact safe_ensure.bind fun _ _ _ => safe_true_iff.mpr ih

theorem readSlot_safe (packet : List UInt8) (off : ℕ) :
    Safe (fun slot => slot.rdataOffset + slot.rdlen ≤ packet.length) (readSlot packet off) := by
  refine (Name.skipWire_safe packet off).bind fun next _ _ => safe_ensure.bind fun _ _ hroom => ?_
  rw [readU16_pos (by omega), readU16_pos (by omega), readU16_pos (by omega)]
  simp only [ok_bind]
  refine safe_ensure.bind fun _ _ hfit => ?_
  rw [pure_eq_ok, safe_ok]
  dsimp only
  omega

theorem skipRecords_finished : ∀ {n off : ℕ}, (skipRecords packet n off).Finished := by
  intro n
  induction n with
  | zero => exact fun {_} => trivial
  | succ n ih =>
    intro off
    exact Safe.finished (Q := fun _ => True) ((readSlot_safe packet off).bind fun _ _ _ =>
      safe_true_iff.mpr ih)

theorem Slot.rewrite_safe (ip : IpAddr) {slot : Slot}
    (h : slot.rdataOffset + slot.rdlen ≤ packet.length) :
    Safe (fun out => out.length = packet.length) (slot.rewrite ip packet) := by
  have hwrite : ∀ {bs : List UInt8}, slot.rdlen = bs.length →
      Safe (fun out => out.length = packet.length)
        (writeBytes packet slot.rdataOffset bs : Outcome MsgError _) := by
    intro bs hlen
    have hfit : slot.rdataOffset + bs.length ≤ packet.length := hlen ▸ h
    rw [writeBytes_pos hfit]
    exact length_setBytes hfit
  unfold rewrite
  split
  · split
    · split
      · next hlen => exact hwrite (by simpa using hlen)
      · rfl
    · split
      · next hlen => exact hwrite (by simpa using hlen)
      · rfl
    · rfl
  · rfl

theorem rewriteAnswers_finished (ip : IpAddr) : ∀ {n off : ℕ} {cur : List UInt8},
    (rewriteAnswers ip n off cur).1.Finished := by
  intro n
  induction n with
  | zero => exact fun {_ _} => trivial
  | succ n ih =>
    intro off cur
    rw [rewriteAnswers]
    refine Proc.finished_bind (readSlot_safe cur off).finished fun slot hslot =>
      Proc.finished_bind ?_ fun _ _ => ih
    have hrw := Slot.rewrite_safe ip ((readSlot_safe cur off).of_ok hslot)
    rw [Proc.reads_apply, Proc.modifies_apply]
    cases hr : slot.rewrite ip cur with
    | ok out => trivial
    | err => trivial
    | panic => rw [hr] at hrw; exact hrw.elim
    | timeout => rw [hr] at hrw; exact hrw.elim

theorem Msg.rewriteAnswerIpsInPacket_finished (ip : IpAddr) (packet : List UInt8) :
    (Msg.rewriteAnswerIpsInPacket ip packet).1.Finished := by
  by_cases hlen : packet.length < dnsHeaderSize
  · rw [rewriteAnswerIpsInPacket, Proc.bind_apply, Proc.reads_apply, ensure_neg (not_not.mpr hlen)]
    trivial
  · have hread : ∀ i, i ≤ 10 → (readU16 packet i : Outcome MsgError UInt16) =
      .ok (be16At packet i) :=
      fun i hi => readU16_pos (Nat.le_trans (Nat.add_le_add_right hi 2) (Nat.le_of_not_lt hlen))
    have hread : ∀ i, i ≤ 10 → (readU16 packet i : Outcome MsgError UInt16).Finished :=
      fun i hi => hread i hi ▸ trivial
    refine Proc.finished_bind safe_ensure.finished fun _ _ => ?_
    refine Proc.finished_bind (hread 4 (by decide)) fun _ _ =>
      Proc.finished_bind (hread 6 (by decide)) fun _ _ => ?_
    refine Proc.finished_bind (hread 8 (by decide)) fun _ _ =>
      Proc.finished_bind (hread 10 (by decide)) fun _ _ => ?_
    refine Proc.finished_bind skipQuestions_finished fun _ _ => ?_
    refine Proc.finished_bind (rewriteAnswers_finished ip) fun _ _ => ?_
    exact Proc.finished_bind skipRecords_finished fun _ _ => safe_ensure.finished

/-! ### The parser -/

theorem Name.fromWire_safe (packet : List UInt8) (off : ℕ) :
    Safe (fun r => (off < r.2 ∧ r.2 ≤ packet.length) ∧
      (∀ label ∈ r.1.labels, 1 ≤ label.length ∧ label.length ≤ 63) ∧ 1 + octets r.1.labels ≤ 255)
      (Name.fromWire packet off) := by
  have hfin := Name.fromWire_finished packet off
  cases h : Name.fromWire packet off with
  | ok r =>
    obtain ⟨k, -, hlen, hname⟩ := Name.fromWire_eq_ok_iff.mp h
    exact ⟨hname.lt_next, fun label hl =>
      ⟨(hname.labels_fit label hl).1, Nat.le_of_lt_succ (hname.labels_fit label hl).2⟩, hlen⟩
  | err => trivial
  | panic => rw [h] at hfin; exact hfin
  | timeout => rw [h] at hfin; exact hfin

theorem Msg.unpackQuestions_finished : ∀ {n off :
    ℕ}, (Msg.unpackQuestions packet n off).Finished := by
  intro n
  induction n with
  | zero => exact fun {_} => trivial
  | succ n ih =>
    intro off
    refine Safe.finished (Q := fun _ => True)
      ((Name.fromWire_safe packet off).bind fun r _ hr => ?_)
    refine safe_ensure.bind fun _ _ hroom => ?_
    rw [readU16_pos (by omega), ok_bind, readU16_pos (by omega), ok_bind]
    exact (safe_true_iff.mpr ih).bind fun _ _ _ => trivial

theorem unpackRr_finished (packet : List UInt8) (off : ℕ) : (unpackRr packet off).Finished := by
  refine Safe.finished (Q := fun _ => True) ((Name.fromWire_safe packet off).bind fun r _ hr => ?_)
  refine safe_ensure.bind fun _ _ hroom => ?_
  rw [readU16_pos (by omega), ok_bind, readU16_pos (by omega), ok_bind,
    readU32_pos (by omega), ok_bind,
    readU16_pos (by omega), ok_bind]
  refine safe_ensure.bind fun _ _ hfit => ?_
  rw [slice_pos ⟨Nat.le_add_right _ _, by omega⟩]
  trivial

theorem unpackRrSection_finished : ∀ {n off : ℕ}, (unpackRrSection packet n off).Finished := by
  intro n
  induction n with
  | zero => exact fun {_} => trivial
  | succ n ih =>
    intro off
    refine Safe.finished (Q := fun _ => True)
      ((safe_true_iff.mpr (unpackRr_finished packet off)).bind fun _ _ _ => ?_)
    exact (safe_true_iff.mpr ih).bind fun _ _ _ => trivial

theorem Msg.unpack_finished (packet : List UInt8) : (Msg.unpack packet).Finished := by
  refine Safe.finished (Q := fun _ => True) (safe_ensure.bind fun _ _ hlen => ?_)
  have hread : ∀ i, i ≤ 10 → (readU16 packet i : Outcome MsgError UInt16) = .ok (be16At packet i) :=
    fun i hi => readU16_pos (Nat.le_trans (Nat.add_le_add_right hi 2) (Nat.le_of_not_lt hlen))
  simp only [hread 0 (by decide), hread 2 (by decide), hread 4 (by decide),
    hread 6 (by decide), hread 8 (by decide),
    hread 10 (by decide), ok_bind]
  refine (safe_true_iff.mpr unpackQuestions_finished).bind fun _ _ _ => ?_
  refine (safe_true_iff.mpr unpackRrSection_finished).bind fun _ _ _ => ?_
  refine (safe_true_iff.mpr unpackRrSection_finished).bind fun _ _ _ => ?_
  refine (safe_true_iff.mpr unpackRrSection_finished).bind fun _ _ _ => ?_
  exact safe_ensure.bind fun _ _ _ => trivial

/-- **Whatever the bytes are**, every reader comes to a result, the walkers go forward inside the
packet, and the names that are read fit. -/
theorem reads_any_packet (packet : List UInt8) :
    (Msg.unpack packet).Finished ∧ (Msg.qtypeFromPacket packet).Finished ∧
      (∀ selectedIp, (Msg.rewriteAnswerIpsInPacket selectedIp packet).1.Finished) ∧
      (∀ queryId qtype, (parseBootstrapDnsResponse packet queryId qtype).Finished) ∧
      (∀ off next, (∃ name, Name.fromWire packet off = .ok (name, next)) ∨
        Name.skipWire packet off = .ok next ∨
        skipName packet off = .ok next ∨ (∃ name, parseDnsNameLower packet off = .ok (name, next)) →
          off < next ∧ next ≤ packet.length) ∧
      ∀ off name next, Name.fromWire packet off = .ok (name, next) →
        (∀ label ∈ name.labels, 1 ≤ label.length ∧ label.length ≤ 63) ∧
          1 + octets name.labels ≤ 255 := by
  refine ⟨Msg.unpack_finished packet, Msg.qtypeFromPacket_finished packet,
    fun ip => Msg.rewriteAnswerIpsInPacket_finished ip packet,
      parseBootstrapDnsResponse_finished packet, ?_, ?_⟩
  · rintro off next (⟨name, h⟩ | h | h | ⟨name, h⟩)
    · exact ((Name.fromWire_safe packet off).of_ok h).1
    · exact (Name.skipWire_safe packet off).of_ok h
    · obtain ⟨nm, ⟨_, _, hnm⟩, -, rfl, hle⟩ := skipName_sound h
      exact ⟨Nat.lt_add_of_pos_right hnm.length_pos, hle⟩
    · exact (parseDnsNameLower_safe packet off).of_ok h
  · exact fun off name next h => ((Name.fromWire_safe packet off).of_ok h).2

end DohProxy.Upstream
