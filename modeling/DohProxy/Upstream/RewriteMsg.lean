import DohProxy.Upstream.Rewrite
import Mathlib.Data.List.Pairwise

/-!
# Rewriting a message and rewriting its packet

`msg.rs` sets the addresses in the answers of a message (`Msg.rewriteAnswerIps`), and those in the
answers of a packet in place, without unpacking it.

## What is proved

* `locateRecords_disjoint` — the data of two records does not overlap.
* `rewriteAnswerIpsInPacket_agrees` — **in place, the data of the answers becomes what it becomes in
  the message**, and nothing else changes.
-/

namespace DohProxy.Upstream

open Lib Outcome Net

/-- The record with the selected address, where it has an address of that family. -/
def ResourceRecord.rewriteIp (selectedIp : IpAddr) (rr : ResourceRecord) : ResourceRecord :=
  if rr.rrClass ≠ dnsClassIn then rr
  else
    match rr.rrType, selectedIp with
    | .A, .v4 ip => if rr.rdata.length = 4 then { rr with rdata := ip.toList } else rr
    | .AAAA, .v6 ip => if rr.rdata.length = 16 then { rr with rdata := ip.toList } else rr
    | _, _ => rr

/-- Setting the addresses in the answers of a message to the selected one. -/
def Msg.rewriteAnswerIps (m : Msg) (selectedIp : IpAddr) : Msg :=
  { m with answers := m.answers.map (ResourceRecord.rewriteIp selectedIp) }

section

variable {packet out : List UInt8} {rr : ResourceRecord} {ip : IpAddr} {off next : ℕ}

theorem ResourceRecord.rewriteIp_of_hasAddressLike (h : rr.HasAddressLike ip) :
    rr.rewriteIp ip = { rr with rdata := ip.octets } := by
  obtain ⟨hc, ht, hlen⟩ := h
  cases ip with
  | v4 addr => simp [rewriteIp, hc, ht, hlen, addressType, IpAddr.octets]
  | v6 addr => simp [rewriteIp, hc, ht, hlen, addressType, IpAddr.octets]

theorem ResourceRecord.rewriteIp_of_not_hasAddressLike (h : ¬ rr.HasAddressLike ip) :
    rr.rewriteIp ip = rr := by
  unfold rewriteIp
  split
  · rfl
  · next hc =>
    rw [ne_eq, not_not] at hc
    split
    · next addr ht => exact if_neg fun hlen => h ⟨hc, ht, by simpa [IpAddr.octets] using hlen⟩
    · next addr ht => exact if_neg fun hlen => h ⟨hc, ht, by simpa [IpAddr.octets] using hlen⟩
    · rfl

/-- A record that changes has an address. -/
theorem ResourceRecord.hasAddressLike_of_rewriteIp_ne (h : rr.rewriteIp ip ≠ rr) :
    rr.HasAddressLike ip := by
  by_contra hno
  exact h (rewriteIp_of_not_hasAddressLike hno)

/-! ### Where the data is -/

/-- A record's data ends where the record does. -/
theorem rdata_of_unpackRr (h : unpackRr packet off = .ok (rr, next)) :
    off + rr.rdata.length < next ∧ next ≤ packet.length ∧
      (packet.drop (next - rr.rdata.length)).take rr.rdata.length = rr.rdata := by
  obtain ⟨e, hname, -, -, -, -, hdata, rfl, hle⟩ := unpackRr_at h
  obtain ⟨_, -, -, hwire⟩ := Name.fromWire_eq_ok_iff.mp hname
  have hlt := hwire.lt_next.1
  refine ⟨by omega, hle, ?_⟩
  rw [Nat.add_sub_cancel, hdata, List.take_left]

/-- The records that are located, with the place of their data. -/
theorem mem_locateRecords : ∀ {n off stop : ℕ} {records : List ResourceRecord},
    unpackRrSection packet n off = .ok (records, stop) → ∀ {rr : ResourceRecord} {o : ℕ},
      (rr, o) ∈ locateRecords packet n off → off < o ∧ o + rr.rdata.length ≤ packet.length ∧
        (packet.drop o).take rr.rdata.length = rr.rdata := by
  intro n
  induction n with
  | zero =>
    intro off stop records _ rr o hmem
    cases hmem
  | succ n ih =>
    intro off stop records h rr o hmem
    obtain ⟨rr₁, next, rest, hrr, hrest, rfl⟩ := unpackRrSection_succ h
    obtain ⟨hlt, hle, hdata⟩ := rdata_of_unpackRr hrr
    rw [locateRecords, hrr, List.mem_cons, Prod.mk.injEq] at hmem
    rcases hmem with ⟨rfl, rfl⟩ | hmem
    · exact ⟨by omega, by omega, hdata⟩
    · obtain ⟨hlt', hle', hdata'⟩ := ih hrest hmem
      exact ⟨by omega, hle', hdata'⟩

/-- **The data of one record ends before that of the next one begins.** -/
theorem locateRecords_pairwise : ∀ {n off stop : ℕ} {records : List ResourceRecord},
    unpackRrSection packet n off = .ok (records, stop) →
      (locateRecords packet n off).Pairwise fun a b => a.2 + a.1.rdata.length ≤ b.2 := by
  intro n
  induction n with
  | zero => exact fun _ => .nil
  | succ n ih =>
    intro off stop records h
    obtain ⟨rr, next, rest, hrr, hrest, -⟩ := unpackRrSection_succ h
    obtain ⟨hlt, -, -⟩ := rdata_of_unpackRr hrr
    rw [locateRecords, hrr]
    refine List.pairwise_cons.mpr ⟨?_, ih hrest⟩
    rintro ⟨rr', o'⟩ hmem
    obtain ⟨hlt', -, -⟩ := mem_locateRecords hrest hmem
    dsimp only
    omega

/-! ### The two agree -/

variable {records : List (ResourceRecord × ℕ)} {which : ResourceRecord → Prop}
  {octets : List UInt8}

/-- The data of a record that is not set stays, the others being elsewhere. -/
theorem RdataSet.window_kept (h : RdataSet records which octets packet out)
    (hpair : records.Pairwise fun a b => a.2 + a.1.rdata.length ≤ b.2) {o : ℕ}
    (hmem : (rr, o) ∈ records) (hno : ¬ which rr) :
    (out.drop o).take rr.rdata.length = (packet.drop o).take rr.rdata.length := by
  refine SameAt.take_drop (d := 0) fun i hle hlt => h.kept i fun rr' o' hmem' hwhich hin => ?_
  -- two different places in the list, of which one comes first
  obtain ⟨s, t, rfl⟩ := List.append_of_mem hmem
  obtain ⟨-, htail, hcross⟩ := List.pairwise_append.mp hpair
  rcases List.mem_append.mp hmem' with hs | ht
  · have := hcross _ hs _ List.mem_cons_self
    dsimp only at this
    omega
  · rcases List.mem_cons.mp ht with heq | ht
    · cases heq
      exact hno hwhich
    · have := (List.pairwise_cons.mp htail).1 _ ht
      dsimp only at this
      omega

/-- Setting data that stands there already changes nothing. -/
theorem RdataSet.weaken {which' : ResourceRecord → Prop}
    (h : RdataSet records which octets packet out) (hsub : ∀ rr, which' rr → which rr)
    (hsame : ∀ rr o, (rr, o) ∈ records → which rr → ¬ which' rr →
      (packet.drop o).take rr.rdata.length = octets) :
    RdataSet records which' octets packet out := by
  refine ⟨h.length, fun rr o hmem hwhich => h.set rr o hmem (hsub rr hwhich), fun i hi => ?_⟩
  by_cases hin : ∃ rr o, (rr, o) ∈ records ∧ which rr ∧ o ≤ i ∧ i < o + rr.rdata.length
  · obtain ⟨rr, o, hmem, hwhich, hle, hlt⟩ := hin
    have hno : ¬ which' rr := fun h' => hi rr o hmem h' ⟨hle, hlt⟩
    have heq := (h.set rr o hmem hwhich).trans (hsame rr o hmem hwhich hno).symm
    have hget := congrArg (fun bs : List UInt8 => bs[i - o]?) heq
    rwa [List.getElem?_take_of_lt (by omega), List.getElem?_take_of_lt (by omega),
      List.getElem?_drop, List.getElem?_drop, Nat.add_sub_cancel' hle] at hget
  · exact h.kept i fun rr o hmem hwhich hcontra => hin ⟨rr, o, hmem, hwhich, hcontra⟩

end

/-- **In place as in the message**: the data of the answers of a packet that the parser accepts
becomes what rewriting the message makes of it. Only the data of records that change is set, each to
the octets of the selected address, and every other byte is kept. -/
theorem rewriteAnswerIpsInPacket_agrees {packet : List UInt8} {m : Msg}
    (h : Msg.unpack packet = .ok m) (ip : IpAddr) :
    ∃ out, Msg.rewriteAnswerIpsInPacket ip packet = (.ok (), out) ∧
      (locateAnswers packet).map Prod.fst = m.answers ∧
      (∀ rr off, (rr, off) ∈ locateAnswers packet →
        (packet.drop off).take rr.rdata.length = rr.rdata) ∧
      (locateAnswers packet).map (fun w => (out.drop w.2).take w.1.rdata.length) =
        (m.rewriteAnswerIps ip).answers.map ResourceRecord.rdata ∧
      RdataSet (locateAnswers packet) (fun rr => rr.rewriteIp ip ≠ rr) ip.octets packet out := by
  obtain ⟨out, hout, hset⟩ := Msg.rewriteAnswerIpsInPacket_of_unpack h ip
  have hanswers := map_locateAnswers h
  obtain ⟨-, -, -, o₁, o₂, o₃, h₁, h₂, -, -⟩ := Msg.unpack_eq_ok.mp h
  have hloc : locateAnswers packet = locateRecords packet (be16At packet 6).toNat o₁ := by
    rw [locateAnswers, h₁]
  have hwindow : ∀ rr off, (rr, off) ∈ locateAnswers packet →
      (packet.drop off).take rr.rdata.length = rr.rdata := fun rr off hmem =>
    (mem_locateRecords h₂ (hloc ▸ hmem)).2.2
  have hpair := locateRecords_pairwise h₂
  rw [← hloc] at hpair
  refine ⟨out, hout, hanswers, hwindow, ?_, hset.weaken ?_ ?_⟩
  · rw [Msg.rewriteAnswerIps, ← hanswers, List.map_map, List.map_map]
    refine List.map_congr_left fun w hw => ?_
    obtain ⟨rr, off⟩ := w
    by_cases hlike : rr.HasAddressLike ip
    · exact (hset.set rr off hw hlike).trans
        (congrArg ResourceRecord.rdata (ResourceRecord.rewriteIp_of_hasAddressLike hlike)).symm
    · refine ((hset.window_kept hpair hw hlike).trans (hwindow rr off hw)).trans ?_
      exact congrArg ResourceRecord.rdata (ResourceRecord.rewriteIp_of_not_hasAddressLike hlike).symm
  · exact fun rr hne => ResourceRecord.hasAddressLike_of_rewriteIp_ne hne
  · intro rr off hmem hlike hsame
    rw [not_not, ResourceRecord.rewriteIp_of_hasAddressLike hlike] at hsame
    rw [hwindow rr off hmem, ← congrArg ResourceRecord.rdata hsame]

/-- A reply with an IPv4 and an IPv6 address. -/
def mixedReply : List UInt8 :=
  [0x12, 0x34, 0x81, 0x80, 0, 0, 0, 2, 0, 0, 0, 0] ++
    [0, 0, 1, 0, 1, 0, 0, 0, 60, 0, 4, 192, 0, 2, 1] ++
    [0, 0, 28, 0, 1, 0, 0, 0, 60, 0, 16, 32, 1, 13, 184, 0, 0, 0, 0, 0, 0, 0, 0, 0, 0, 0, 1]

/-- Its message. -/
def mixedMsg : Msg :=
  ⟨MsgHeader.fromWire 0x1234 0x8180, false, [],
    [⟨⟨[]⟩, .A, 1, 60, [192, 0, 2, 1]⟩,
    ⟨⟨[]⟩, .AAAA, 1, 60, [32, 1, 13, 184, 0, 0, 0, 0, 0, 0, 0, 0, 0, 0, 0, 1]⟩], [], []⟩

theorem rewriteAnswerIpsInPacket_agrees_mixedReply :
    ∃ out, Msg.rewriteAnswerIpsInPacket (.v4 #v[192, 0, 2, 9]) mixedReply = (.ok (), out) ∧
      (locateAnswers mixedReply).map (fun w => (out.drop w.2).take w.1.rdata.length) =
        (mixedMsg.rewriteAnswerIps (.v4 #v[192, 0, 2, 9])).answers.map ResourceRecord.rdata := by
  obtain ⟨out, hout, -, -, hdata, -⟩ := rewriteAnswerIpsInPacket_agrees
    (show Msg.unpack mixedReply = .ok mixedMsg by decide +kernel) (.v4 #v[192, 0, 2, 9])
  exact ⟨out, hout, hdata⟩

end DohProxy.Upstream
