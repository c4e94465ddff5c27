import Mathlib.Data.List.GetD
import Mathlib.Data.Nat.Bitwise
import Mathlib.Tactic.Common

/-!
# IP addresses

An address is its octets, most significant first. A prefix of an address is a number
of its bits, counted from the most significant one.

## What is proved

`take_eq_iff_agreeUpTo` — two addresses of one length begin with the same `k` octets
exactly when they agree on their first `8 * k` bits.
-/

namespace DohProxy.Net

/-- An IPv4 address. -/
abbrev Ipv4Addr := Vector UInt8 4

/-- An IPv6 address. -/
abbrev Ipv6Addr := Vector UInt8 16

/-- An IP address of either family. -/
inductive IpAddr where
  /-- An IPv4 address. -/
  | v4 (addr : Ipv4Addr)
  /-- An IPv6 address. -/
  | v6 (addr : Ipv6Addr)
  deriving DecidableEq

/-- Its octets. -/
def IpAddr.octets : IpAddr → List UInt8
  | .v4 addr => addr.toList
  | .v6 addr => addr.toList

/-- Whether it is an IPv4 address. -/
def IpAddr.isIpv4 : IpAddr → Bool
  | .v4 _ => true
  | .v6 _ => false

/-- The length of an address in octets. -/
def IpAddr.width (isIpv4 : Bool) : ℕ := if isIpv4 then 4 else 16

theorem IpAddr.length_octets (ip : IpAddr) : ip.octets.length = IpAddr.width ip.isIpv4 := by
  cases ip <;> simp [octets, width, isIpv4]

theorem IpAddr.exists_octets (isIpv4 : Bool) {os : List UInt8}
    (h : os.length = IpAddr.width isIpv4) :
    ∃ ip : IpAddr, ip.isIpv4 = isIpv4 ∧ ip.octets = os := by
  cases isIpv4 with
  | false => exact ⟨.v6 ⟨os.toArray, h⟩, rfl, rfl⟩
  | true => exact ⟨.v4 ⟨os.toArray, h⟩, rfl, rfl⟩

/-- The address of a socket. -/
inductive SocketAddr where
  /-- An IPv4 address and a port. -/
  | v4 (ip : Ipv4Addr) (port : UInt16)
  /-- An IPv6 address and a port. -/
  | v6 (ip : Ipv6Addr) (port : UInt16) (flowinfo scopeId : UInt32)
  deriving DecidableEq

/-- `SocketAddr::new(ip, port)`. -/
def SocketAddr.new (ip : IpAddr) (port : UInt16) : SocketAddr :=
  match ip with
  | .v4 addr => .v4 addr port
  | .v6 addr => .v6 addr port 0 0

/-- Its IP address. -/
def SocketAddr.ip : SocketAddr → IpAddr
  | .v4 ip _ => .v4 ip
  | .v6 ip _ _ _ => .v6 ip

@[simp] theorem SocketAddr.ip_new (ip : IpAddr) (port : UInt16) :
    (SocketAddr.new ip port).ip = ip := by
  cases ip <;> rfl

/-! ### Dotted notation -/

/-- A number of an address as text: up to three digits, no zero in front, at most 255. -/
def parseOctet (s : List UInt8) : Option UInt8 :=
  if s.all (fun b => 0x30 ≤ b && b ≤ 0x39) ∧ 1 ≤ s.length ∧ s.length ≤ 3 ∧
    (s.length = 1 ∨ s.head? ≠ some 0x30) then
    let n := s.foldl (fun acc b => acc * 10 + (b.toNat - 0x30)) 0
    if n ≤ 255 then some (UInt8.ofNat n) else none
  else none

/-- An IPv4 address as text: four numbers with dots between them. -/
def parseIpv4 (s : List UInt8) : Option Ipv4Addr :=
  match s.splitOn 0x2e with
  | [a, b, c, d] => do return #v[← parseOctet a, ← parseOctet b, ← parseOctet c, ← parseOctet d]
  | _ => none

/-! ### Bits -/

/-- The bit at `i`, the most significant one being at `0`. Bits outside are clear. -/
def bitAt (octets : List UInt8) (i : ℕ) : Bool := (octets.getD (i / 8) 0).toNat.testBit (7 - i % 8)

/-- The first `n` bits are the same. -/
def AgreeUpTo (n : ℕ) (as bs : List UInt8) : Prop := ∀ i < n, bitAt as i = bitAt bs i

instance (n : ℕ) (as bs : List UInt8) : Decidable (AgreeUpTo n as bs) :=
  inferInstanceAs (Decidable (∀ i < n, _))

theorem AgreeUpTo.mono {n m : ℕ} {as bs : List UInt8} (h : AgreeUpTo n as bs) (hm : m ≤ n) :
    AgreeUpTo m as bs :=
  fun i hi => h i (hi.trans_le hm)

/-- An octet is its bits. -/
theorem octet_ext {a b : UInt8} (h : ∀ i < 8,
    a.toNat.testBit (7 - i) = b.toNat.testBit (7 - i)) : a = b := by
  apply UInt8.toNat_inj.mp
  apply Nat.eq_of_testBit_eq
  intro m
  by_cases hm : m < 8
  · have := h (7 - m) (by omega)
    rwa [show 7 - (7 - m) = m by omega] at this
  · have hpow : 2 ^ 8 ≤ 2 ^ m := Nat.pow_le_pow_right (by omega) (by omega)
    rw [Nat.testBit_lt_two_pow (a.toNat_lt.trans_le hpow),
      Nat.testBit_lt_two_pow (b.toNat_lt.trans_le hpow)]

/-- **Octets and bits**: the same first `k` octets are the same first `8 * k` bits. -/
theorem take_eq_iff_agreeUpTo {as bs : List UInt8} (hlen : as.length = bs.length) (k : ℕ) :
    as.take k = bs.take k ↔ AgreeUpTo (8 * k) as bs := by
  constructor
  · intro h i hi
    have := congrArg (fun l => l[i / 8]?) h
    simp only [List.getElem?_take_of_lt (show i / 8 < k by omega)] at this
    rw [bitAt, bitAt, List.getD_eq_getElem?_getD, List.getD_eq_getElem?_getD, this]
  · intro h
    apply List.ext_getElem (by simp [hlen])
    intro j hj₁ hj₂
    rw [List.getElem_take, List.getElem_take]
    simp only [List.length_take] at hj₁ hj₂
    apply octet_ext
    intro i hi
    have := h (8 * j + i) (by omega)
    rwa [bitAt, bitAt, show (8 * j + i) / 8 = j by omega, show (8 * j + i) % 8 = i by omega,
      List.getD_eq_getElem _ _ (by omega), List.getD_eq_getElem _ _ (by omega)] at this

end DohProxy.Net
