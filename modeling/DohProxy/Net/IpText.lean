import DohProxy.Lib.Bytes
import DohProxy.Lib.Text
import DohProxy.Lib.Utf8
import DohProxy.Net.IpAddr

/-!
# IP addresses as text

`IpAddr::from_str` of the standard library, and the texts of addresses. A host that is an address
needs no lookup, so it is read as one first.

## What is proved

`fromStr_dotted` — the text of an IPv4 address is read as that address. `fromStr_groups` — eight
groups, none left out, are read as the address they make. `fromStr_bracket`, `fromStr_of_notMem` —
what begins with a bracket, and what has neither a dot nor a colon in it, is read as no address.
-/

namespace DohProxy.Net

open Lib

/-- `char::to_digit(16)`. -/
def hexDigit (b : UInt8) : Option ℕ :=
  if 0x30 ≤ b ∧ b ≤ 0x39 then some (b.toNat - 0x30)
  else if 0x61 ≤ b ∧ b ≤ 0x66 then some (b.toNat - 0x61 + 10)
  else if 0x41 ≤ b ∧ b ≤ 0x46 then some (b.toNat - 0x41 + 10)
  else none

/-- A group of an IPv6 address: up to four hexadecimal digits. -/
def readGroup (s : List UInt8) : Option (UInt16 × List UInt8) :=
  let digits := s.takeWhile fun b => (hexDigit b).isSome
  if digits = [] ∨ digits.length > 4 then none
  else
    let n := (digits.filterMap hexDigit).foldl (fun acc d => acc * 16 + d) 0
    some (UInt16.ofNat n, s.drop digits.length)

/-- A colon, but for the first group. -/
def readSeparator (i : ℕ) (s : List UInt8) : Option (List UInt8) :=
  if i = 0 then some s
  else
    match s with
    | b :: s => if b = 0x3a then some s else none
    | [] => none

/-- `read_groups`, with the number of groups that are left: the groups, whether the last two are an
IPv4 address, and the text after them. -/
def readGroups : ℕ → ℕ → List UInt8 → List UInt16 × Bool × List UInt8
  | 0, _, s => ([], false, s)
  | left + 1, i, s =>
    -- there is nothing after an embedded IPv4 address, so it is all that is left of the text
    match if 1 ≤ left then (readSeparator i s).bind parseIpv4 else none with
    | some v4 => ([be16 v4[0] v4[1], be16 v4[2] v4[3]], true, [])
    | none =>
      match (readSeparator i s).bind readGroup with
      | some (group, rest) =>
        let (groups, ipv4, rest) := readGroups left (i + 1) rest
        (group :: groups, ipv4, rest)
      | none => ([], false, s)

/-- The address with the given groups. -/
def ofGroups (groups : List UInt16) : Ipv6Addr :=
  .ofFn fun i => (groups.flatMap u16Bytes).getD i 0

/-- An IPv6 address as text: eight groups, of which zeros may be left out between two colons. -/
def parseIpv6 (s : List UInt8) : Option Ipv6Addr :=
  let (head, ipv4, rest) := readGroups 8 0 s
  if head.length = 8 then if rest = [] then some (ofGroups head) else none
  else if ipv4 then none
  else
    match rest with
    | 0x3a :: 0x3a :: rest =>
      let (tail, _, rest) := readGroups (8 - (head.length + 1)) 0 rest
      if rest = [] then
        some (ofGroups (head ++ List.replicate (8 - head.length - tail.length) 0 ++ tail))
      else none
    | _ => none

/-- `IpAddr::from_str`. -/
def IpAddr.fromStr (text : List Char) : Option IpAddr :=
  let s := text.flatMap String.utf8EncodeChar
  ((parseIpv4 s).map .v4).or ((parseIpv6 s).map .v6)

/-- The text of an IPv4 address. -/
def dotted (addr : Ipv4Addr) : List Char :=
  ['.'].intercalate (addr.toList.map fun octet => Nat.toDigits 10 octet.toNat)

/-- `segments`: the groups of an IPv6 address. -/
def segments (addr : Ipv6Addr) : List UInt16 :=
  List.ofFn fun i : Fin 8 => be16 addr[2 * i.val] addr[2 * i.val + 1]

/-- `to_ipv4_mapped`. -/
def toIpv4Mapped (addr : Ipv6Addr) : Option Ipv4Addr :=
  if addr.toList.take 12 = List.replicate 10 0 ++ [0xff, 0xff] then
    some (addr.drop 12)
  else none

/-- A run of groups that are zero. -/
structure Span where
  /-- The first of them. -/
  start : ℕ
  /-- How many there are. -/
  len : ℕ

/-- The first of the longest runs of zeros, from the group at `i` on. -/
def zeroes (longest current : Span) (i : ℕ) : List UInt16 → Span
  | [] => longest
  | segment :: rest =>
    if segment = 0 then
      let current : Span := ⟨if current.len = 0 then i else current.start, current.len + 1⟩
      zeroes (if current.len > longest.len then current else longest) current (i + 1) rest
    else zeroes longest ⟨0, 0⟩ (i + 1) rest

/-- Groups as hexadecimal numbers with colons between them. -/
def fmtSubslice (chunk : List UInt16) : List Char :=
  [':'].intercalate (chunk.map fun segment => Nat.toDigits 16 segment.toNat)

/-- The text of an IPv6 address. -/
def ipv6Text (addr : Ipv6Addr) : List Char :=
  match toIpv4Mapped addr with
  | some ipv4 => "::ffff:".toList ++ dotted ipv4
  | none =>
    let groups := segments addr
    let run := zeroes ⟨0, 0⟩ ⟨0, 0⟩ 0 groups
    if run.len > 1 then
      fmtSubslice (groups.take run.start) ++ "::".toList ++
        fmtSubslice (groups.drop (run.start + run.len))
    else fmtSubslice groups

/-! ### What is read -/

/-- The digits of an octet. -/
def octetDigits (octet : UInt8) : List Char := Nat.toDigits 10 octet.toNat

theorem parseOctet_octetDigits (octet : UInt8) :
    parseOctet ((octetDigits octet).flatMap String.utf8EncodeChar) = some octet := by
  have h : ∀ n : Fin 256, parseOctet ((octetDigits (UInt8.ofNat n)).flatMap
      String.utf8EncodeChar) = some (UInt8.ofNat n) := by
    decide +kernel
  simpa using h ⟨octet.toNat, octet.toNat_lt⟩

theorem dot_notMem_octetDigits (octet : UInt8) :
    0x2e ∉ (octetDigits octet).flatMap String.utf8EncodeChar := by
  have h : ∀ n : Fin 256, 0x2e ∉ (octetDigits (UInt8.ofNat n)).flatMap
      String.utf8EncodeChar := by
    decide +kernel
  simpa using h ⟨octet.toNat, octet.toNat_lt⟩

/-- **The text of an IPv4 address is read as that address.** -/
theorem fromStr_dotted (addr : Ipv4Addr) : IpAddr.fromStr (dotted addr) = some (.v4 addr) := by
  obtain ⟨⟨octets⟩, hsize⟩ := addr
  match octets, hsize with
  | [a, b, c, d], hsize =>
    have hbytes : (dotted ⟨⟨[a, b, c, d]⟩, hsize⟩).flatMap String.utf8EncodeChar =
        [0x2e].intercalate ([a, b, c, d].map fun octet =>
          (octetDigits octet).flatMap String.utf8EncodeChar) := by
      simp [dotted, octetDigits, List.intercalate, List.intersperse, List.flatMap_append]
      rfl
    have hparts : ([0x2e].intercalate ([a, b, c, d].map fun octet =>
        (octetDigits octet).flatMap String.utf8EncodeChar)).splitOn 0x2e = _ :=
      List.splitOn_intercalate 0x2e (fun part hpart => by
        obtain ⟨octet, -, rfl⟩ := List.mem_map.mp hpart
        exact dot_notMem_octetDigits octet) (by simp)
    have hv4 : parseIpv4 ((dotted ⟨⟨[a, b, c, d]⟩, hsize⟩).flatMap String.utf8EncodeChar) =
        some ⟨⟨[a, b, c, d]⟩, hsize⟩ := by
      rw [hbytes, parseIpv4, hparts]
      simp only [List.map_cons, List.map_nil, parseOctet_octetDigits]
      rfl
    rw [IpAddr.fromStr, hv4]
    rfl

/-- **What begins with a bracket is no address.** -/
theorem fromStr_bracket (text : List Char) : IpAddr.fromStr ('[' :: text) = none := by
  have hbytes : ('[' :: text).flatMap String.utf8EncodeChar =
      0x5b :: text.flatMap String.utf8EncodeChar := rfl
  rw [IpAddr.fromStr, hbytes]
  generalize text.flatMap String.utf8EncodeChar = s
  have hv4 : parseIpv4 (0x5b :: s) = none := by
    obtain ⟨first, parts, hsplit⟩ := List.exists_cons_of_ne_nil
      (List.splitOnP_ne_nil (· == (0x2e : UInt8)) s)
    have hfirst : parseOctet (0x5b :: first) = none := rfl
    rw [parseIpv4, List.splitOn_eq_splitOnP, List.splitOnP_cons_eq_if_modifyHead,
      if_neg (by decide), hsplit, List.modifyHead_cons]
    split
    · next heq =>
      obtain ⟨rfl, -⟩ := List.cons.inj heq
      simp only [hfirst, Option.bind_eq_bind, Option.bind_none]
    · rfl
  have hv6 : parseIpv6 (0x5b :: s) = none := by
    have hgroup : readGroup (0x5b :: s) = none := rfl
    have hgroups : readGroups 8 0 (0x5b :: s) = ([], false, 0x5b :: s) := by
      simp [readGroups, readSeparator, hv4, hgroup]
    rw [parseIpv6, hgroups]
    rfl
  simp only [hv4, hv6, Option.map_none, Option.or_none]

/-! ### Groups in hexadecimal -/

/-- The bytes of a number in hexadecimal. -/
def hexBytes (n : ℕ) : List UInt8 := (Nat.toDigits 16 n).flatMap String.utf8EncodeChar

/-- The bytes of a single digit. -/
theorem hexBytes_of_lt {n : ℕ} (h : n < 16) :
    ∃ b, hexBytes n = [b] ∧ hexDigit b = some n ∧ b ≠ 0x2e ∧ b ≠ 0x3a := by
  have hall : ∀ n : Fin 16, ∃ b, hexBytes n = [b] ∧ hexDigit b = some n.val ∧ b ≠ 0x2e ∧
      b ≠ 0x3a := by
    intro n
    refine ⟨(hexBytes n).headD 0, ?_⟩
    revert n
    decide +kernel
  exact hall ⟨n, h⟩

/-- One more digit, after the others. -/
theorem hexBytes_of_le {n : ℕ} (h : 16 ≤ n) :
    hexBytes n = hexBytes (n / 16) ++ hexBytes (n % 16) := by
  rw [hexBytes, Nat.toDigits_of_base_le (by decide) h, List.flatMap_append, hexBytes, hexBytes,
    Nat.toDigits_of_lt_base (Nat.mod_lt n (by decide))]

/-- The digits of a number, and what they are read as. -/
structure IsHex (n : ℕ) (bs : List UInt8) : Prop where
  /-- Every byte is a digit. -/
  digit : ∀ b ∈ bs, (hexDigit b).isSome = true
  /-- No byte is a dot. -/
  notDot : 0x2e ∉ bs
  /-- There are digits. -/
  nonempty : bs ≠ []
  /-- There are no more than the number needs. -/
  short : ∀ k, n < 16 ^ (k + 1) → bs.length ≤ k + 1
  /-- They are read as the number. -/
  value : (bs.filterMap hexDigit).foldl (fun acc d => acc * 16 + d) 0 = n

theorem isHex_hexBytes (n : ℕ) : IsHex n (hexBytes n) := by
  induction n using Nat.strongRecOn with
  | _ n ih =>
    by_cases hn : n < 16
    · obtain ⟨b, hb, hdigit, hdot, -⟩ := hexBytes_of_lt hn
      rw [hb]
      exact {
        digit := by simp [hdigit]
        notDot := by simpa using hdot.symm
        nonempty := by simp
        short := by simp
        value := by simp [hdigit] }
    · have hle : 16 ≤ n := by omega
      have hfront := ih (n / 16) (by omega)
      obtain ⟨b, hb, hdigit, hdot, -⟩ := hexBytes_of_lt (Nat.mod_lt n (show 0 < 16 by decide))
      rw [hexBytes_of_le hle, hb]
      exact {
        digit := fun c hc => by
          rcases List.mem_append.mp hc with hc | hc
          · exact hfront.digit c hc
          · rw [List.mem_singleton.mp hc, hdigit]
            rfl
        notDot := by simp [hfront.notDot, hdot.symm]
        nonempty := by simp
        short := fun k hk => by
          cases k with
          | zero => omega
          | succ k =>
            have := hfront.short k (by rw [Nat.pow_succ] at hk; omega)
            rw [List.length_append, List.length_singleton]
            omega
        value := by
          rw [List.filterMap_append, List.foldl_append, hfront.value]
          simp only [List.filterMap_cons, hdigit, List.filterMap_nil, List.foldl_cons,
            List.foldl_nil]
          omega }

/-- **A group is read**, up to what is no digit. -/
theorem readGroup_hexBytes (v : UInt16) {rest : List UInt8}
    (h : ∀ b, rest.head? = some b → hexDigit b = none) :
    readGroup (hexBytes v.toNat ++ rest) = some (v, rest) := by
  have hhex := isHex_hexBytes v.toNat
  have hrest : rest.takeWhile (fun b => (hexDigit b).isSome) = [] := by
    cases rest with
    | nil => rfl
    | cons b rest => rw [List.takeWhile_cons_of_neg (by simp [h b rfl])]
  have htake : (hexBytes v.toNat ++ rest).takeWhile (fun b => (hexDigit b).isSome) =
      hexBytes v.toNat := by
    rw [List.takeWhile_append_of_pos hhex.digit, hrest, List.append_nil]
  have hlen := hhex.short 3 v.toNat_lt
  rw [readGroup, htake]
  simp only [hhex.nonempty, false_or, show ¬ (hexBytes v.toNat).length > 4 by omega, if_false,
    hhex.value, UInt16.ofNat_toNat, List.drop_left]

/-- Groups with colons between them, and one before the first if others stand before it. -/
def groupBytes : ℕ → List UInt16 → List UInt8
  | _, [] => []
  | i, v :: groups =>
    (if i = 0 then [] else [0x3a]) ++ (hexBytes v.toNat ++ groupBytes (i + 1) groups)

theorem dot_notMem_groupBytes (i : ℕ) (groups : List UInt16) : 0x2e ∉ groupBytes i groups := by
  induction groups generalizing i with
  | nil => exact List.not_mem_nil
  | cons v groups ih =>
    simp only [groupBytes, List.mem_append, not_or]
    refine ⟨?_, (isHex_hexBytes _).notDot, ih _⟩
    split <;> simp

/-- Groups with colons between them, as bytes. -/
theorem groupBytes_eq (i : ℕ) (v : UInt16) (groups : List UInt16) :
    groupBytes i (v :: groups) = (if i = 0 then [] else [0x3a]) ++
      (fmtSubslice (v :: groups)).flatMap String.utf8EncodeChar := by
  induction groups generalizing i v with
  | nil => simp [groupBytes, fmtSubslice, hexBytes]
  | cons w groups ih =>
    have htext : fmtSubslice (v :: w :: groups) =
        Nat.toDigits 16 v.toNat ++ (':' :: fmtSubslice (w :: groups)) := by
      simp only [fmtSubslice, List.map_cons, List.intercalate_cons_cons, List.append_assoc,
        List.singleton_append]
    have hbytes : (fmtSubslice (v :: w :: groups)).flatMap String.utf8EncodeChar =
        hexBytes v.toNat ++
          (0x3a :: (fmtSubslice (w :: groups)).flatMap String.utf8EncodeChar) := by
      rw [htext, List.flatMap_append, List.flatMap_cons]
      rfl
    rw [groupBytes, ih (i + 1) w, if_neg (Nat.succ_ne_zero i), hbytes, List.singleton_append]

/-- Without dots there is no IPv4 address. -/
theorem parseIpv4_of_notMem {s : List UInt8} (h : 0x2e ∉ s) : parseIpv4 s = none := by
  have hsplit : s.splitOn 0x2e = [s] := List.splitOnP_eq_singleton fun b hb => by
    simpa using fun heq : b = 0x2e => h (heq ▸ hb)
  rw [parseIpv4, hsplit]

theorem readSeparator_groupBytes (i : ℕ) (v : UInt16) (groups : List UInt16) :
    readSeparator i (groupBytes i (v :: groups)) =
      some (hexBytes v.toNat ++ groupBytes (i + 1) groups) := by
  rw [readSeparator.eq_def, groupBytes]
  split
  · rfl
  · rfl

/-- **Groups are read**, all of them. -/
theorem readGroups_groupBytes (i : ℕ) (groups : List UInt16) :
    readGroups groups.length i (groupBytes i groups) = (groups, false, []) := by
  induction groups generalizing i with
  | nil => rfl
  | cons v groups ih =>
    have hdot : 0x2e ∉ hexBytes v.toNat ++ groupBytes (i + 1) groups := by
      rw [List.mem_append, not_or]
      exact ⟨(isHex_hexBytes _).notDot, dot_notMem_groupBytes _ _⟩
    have hbehind : ∀ b, (groupBytes (i + 1) groups).head? = some b → hexDigit b = none := by
      intro b hb
      cases groups with
      | nil => cases hb
      | cons w groups =>
        rw [groupBytes, if_neg (by omega)] at hb
        cases hb
        rfl
    rw [List.length_cons, readGroups, readSeparator_groupBytes]
    simp only [Option.bind_some, parseIpv4_of_notMem hdot, readGroup_hexBytes v hbehind, ih,
      ite_self]

/-- **Eight groups are read as the address they make.** -/
theorem fromStr_groups {groups : List UInt16} (hlen : groups.length = 8) :
    IpAddr.fromStr (fmtSubslice groups) = some (.v6 (ofGroups groups)) := by
  have htext : (fmtSubslice groups).flatMap String.utf8EncodeChar = groupBytes 0 groups := by
    cases groups with
    | nil => cases hlen
    | cons v groups => rw [groupBytes_eq, if_pos rfl, List.nil_append]
  have hread := readGroups_groupBytes 0 groups
  rw [hlen] at hread
  rw [IpAddr.fromStr, htext, parseIpv4_of_notMem (dot_notMem_groupBytes 0 groups), parseIpv6, hread]
  simp [hlen]

/-- **Text without dots and colons is no address.** -/
theorem fromStr_of_notMem {text : List Char} (hdot : '.' ∉ text) (hcolon : ':' ∉ text) :
    IpAddr.fromStr text = none := by
  have hnotMem : ∀ {c : Char} {b : UInt8}, c.toNat = b.toNat → b.toNat < 128 → c ∉ text →
      b ∉ text.flatMap String.utf8EncodeChar := by
    intro c b hcb hb hc hmem
    obtain ⟨d, hd, hbd⟩ := List.mem_flatMap.mp hmem
    have heq : d.toNat = c.toNat := (toNat_of_mem_utf8EncodeChar hbd hb).trans hcb.symm
    exact hc (Char.toNat_inj.mp heq ▸ hd)
  have hdot : 0x2e ∉ text.flatMap String.utf8EncodeChar := hnotMem rfl (by decide) hdot
  have hcolon : 0x3a ∉ text.flatMap String.utf8EncodeChar := hnotMem rfl (by decide) hcolon
  rw [IpAddr.fromStr]
  generalize text.flatMap String.utf8EncodeChar = s at hdot hcolon
  have hseparator : ∀ rest : List UInt8, 0x3a ∉ rest → readGroups 7 1 rest = ([], false, rest) := by
    intro rest hrest
    have hnone : readSeparator 1 rest = none := by
      cases rest with
      | nil => rfl
      | cons b rest =>
        have hb : ¬ b = 0x3a := fun hb => hrest (hb ▸ List.mem_cons_self)
        simp [readSeparator, hb]
    simp [readGroups, hnone]
  -- at most one group is read, and there is no colon after it
  have hgroups : ∃ head rest, readGroups 8 0 s = (head, false, rest) ∧ head.length ≤ 1 ∧
      0x3a ∉ rest := by
    rw [readGroups]
    simp only [readSeparator, if_true, Option.bind_some, parseIpv4_of_notMem hdot, ite_self]
    cases hgroup : readGroup s with
    | none => exact ⟨[], s, rfl, by simp, hcolon⟩
    | some read =>
      obtain ⟨group, rest⟩ := read
      have hrest : 0x3a ∉ rest := by
        simp only [readGroup] at hgroup
        split at hgroup
        · cases hgroup
        · cases hgroup
          exact fun h => hcolon (List.mem_of_mem_drop h)
      simp only [hseparator rest hrest]
      exact ⟨[group], rest, rfl, by simp, hrest⟩
  obtain ⟨head, rest, hread, hlen, hrest⟩ := hgroups
  have hv6 : parseIpv6 s = none := by
    rw [parseIpv6, hread]
    simp only [show ¬ head.length = 8 by omega, if_false, Bool.false_eq_true]
    split
    · exact absurd List.mem_cons_self hrest
    · rfl
  simp only [parseIpv4_of_notMem hdot, hv6, Option.map_none, Option.or_none]

end DohProxy.Net
