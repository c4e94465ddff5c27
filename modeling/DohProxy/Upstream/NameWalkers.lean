import DohProxy.Bootstrap.Owners
import DohProxy.Dns.MinTtl
import DohProxy.Json.Termination
import DohProxy.Upstream.Rewrite

/-!
# The five readers of names

A name in a packet is read by `Name::from_wire` of the upstream layer, by `Name::skip_wire` and
`skip_name`, which get to its end only, by `parse_name` for the JSON answer and by
`parse_dns_name_lower` for the bootstrap resolvers. They have different limits: 128 pointers and 255
bytes, 255 bytes, none, and as many pointers as the packet has bytes.

## What is proved

`walkers_agree` — **what `Name::from_wire` accepts in front of another byte, the others accept**, with
the same labels and the same end.
-/

namespace DohProxy.Upstream

open Lib Outcome Dns Json Bootstrap

variable {packet : List UInt8} {k off next : ℕ} {labels : List (List UInt8)}

/-- A name is so many labels and pointers away from its root byte. -/
theorem WireName.orbit (h : WireName packet k off labels next) :
    ∃ last, Lib.orbit (nameHop packet) (k + labels.length) off = some last ∧
      packet[last]? = some 0 := by
  induction h with
  | @root off hb => exact ⟨off, rfl, hb⟩
  | @label k off next len bs labels hb hpos hlt hbs hd h ih =>
    obtain ⟨last, hlast, hzero⟩ := ih
    have hle : off + 1 + len.toNat ≤ packet.length := by have := h.lt_next; omega
    have hc : ¬ len &&& 0xc0 = 0xc0 := fun hc => by have := (and_c0_eq_c0_iff len).mp hc; omega
    have h0 : ¬ len = 0 := by rintro rfl; simp at hpos
    have hhop : nameHop packet off = some (off + 1 + len.toNat) := by
      rw [nameHop, hb]
      dsimp only
      rw [if_neg hc, if_neg h0, if_pos hle]
    refine ⟨last, ?_, hzero⟩
    rw [List.length_cons, ← Nat.add_assoc, orbit_succ_of_some hhop, hlast]
  | @pointer k off next high low labels hb hh hl hptr h ih =>
    obtain ⟨last, hlast, hzero⟩ := ih
    have hhop : nameHop packet off = some (pointerTarget high low) := by
      rw [nameHop, hb]
      dsimp only
      rw [if_pos ((and_c0_eq_c0_iff high).mpr hh), hl, Option.map_some]
    refine ⟨last, ?_, hzero⟩
    rw [Nat.add_right_comm, orbit_succ_of_some hhop, hlast]

/-- **The labels and pointers of a name are no more than the bytes of the packet**, since none of them
is gone through twice. -/
theorem WireName.add_length_le (h : WireName packet k off labels next) :
    k + labels.length ≤ packet.length := by
  obtain ⟨last, hlast, hzero⟩ := h.orbit
  refine le_of_orbit_stops (fun _ _ => nameHop_lt) hlast ?_
  rw [nameHop, hzero]
  rfl

/-- `parse_dns_name_lower` reads what `Name::from_wire` does. -/
theorem parseDnsNameLower_of_fromWire {name : Name}
    (h : Name.fromWire packet off = .ok (name, next)) :
    parseDnsNameLower packet off = .ok (dottedLower name.labels, next) := by
  obtain ⟨k, -, -, hwire⟩ := Name.fromWire_eq_ok_iff.mp h
  have hlt := hwire.lt_next
  have hle := hwire.add_length_le
  have hsquare : packet.length + 1 ≤ (packet.length + 1) * (packet.length + 1) :=
    Nat.le_mul_of_pos_left _ (Nat.succ_pos _)
  rw [parseDnsNameLower, ensure_pos (show off < packet.length by omega), ok_bind]
  exact @parseDnsNameLowerLoop_complete packet off next k name.labels hwire _ off false 0 []
    (by omega) (by omega)

/-- **The readers of names agree** on a name that `Name::from_wire` accepts, if the packet goes on
after it. -/
theorem walkers_agree {name : Name} (h : Name.fromWire packet off = .ok (name, next))
    (hlt : next < packet.length) :
    skipName packet off = .ok next ∧ Name.skipWire packet off = .ok next ∧
      Settles (fun fuel => parseName fuel packet off) (.ok (lossyName name.labels, next)) ∧
      parseDnsNameLower packet off = .ok (dottedLower name.labels, next) :=
  ⟨skipName_of_fromWire h hlt, Name.skipWire_of_fromWire h rfl rfl, settles_of_fromWire h,
    parseDnsNameLower_of_fromWire h⟩

/-- `A.b` with a pointer in the middle, and one byte after it. -/
theorem walkers_agree_pointer :
    skipName [1, 0x62, 0, 1, 0x41, 0xc0, 0, 7] 3 = .ok 7 ∧
      Name.skipWire [1, 0x62, 0, 1, 0x41, 0xc0, 0, 7] 3 = .ok 7 ∧
      Settles (fun fuel => parseName fuel [1, 0x62, 0, 1, 0x41, 0xc0, 0, 7] 3)
        (.ok (lossyName [[0x41], [0x62]], 7)) ∧
      parseDnsNameLower [1, 0x62, 0, 1, 0x41, 0xc0, 0, 7] 3 =
        .ok (dottedLower [[0x41], [0x62]], 7) :=
  walkers_agree (show Name.fromWire _ 3 = .ok (⟨[[0x41], [0x62]]⟩, 7) by decide) (by decide)

end DohProxy.Upstream
