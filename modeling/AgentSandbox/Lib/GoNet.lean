import AgentSandbox.Lib.IpAddress

/-!
# Go's `net.IP`

The address classification of Go's `net` package as `net/ip.go` computes it
on a byte slice: `To4`, `Equal` and the `Is...` predicates.  On the 16-byte
slices `ParseIP` returns, each predicate is the range test of `IpAddress` on
the address with IPv4-mapped forms read as IPv4 (`classify_of_length_16`).
-/

set_option autoImplicit false

namespace GoNet

open IpAddress

abbrev IP := List UInt8

def IPv4len : Nat := 4
def IPv6len : Nat := 16

def v4InV6Prefix : IP := [0, 0, 0, 0, 0, 0, 0, 0, 0, 0, 0xff, 0xff]

/-- `net.IPv4(a, b, c, d)`, in the 16-byte form. -/
def IPv4 (a b c d : UInt8) : IP := v4InV6Prefix ++ [a, b, c, d]

def IPv4zero : IP := IPv4 0 0 0 0
def IPv6unspecified : IP := List.replicate 16 0
def IPv6loopback : IP := List.replicate 15 0 ++ [1]

def isZeros (p : IP) : Bool := p.all (· == 0)

namespace IP

def to4 (ip : IP) : Option IP :=
  if ip.length = IPv4len then some ip
  else if ip.length = IPv6len && isZeros (ip.take 10) && ip.getD 10 0 == 0xff &&
      ip.getD 11 0 == 0xff then
    some (ip.drop 12)
  else none

def equal (ip x : IP) : Bool :=
  if ip.length = x.length then ip == x
  else if ip.length = IPv4len && x.length = IPv6len then x.take 12 == v4InV6Prefix && ip == x.drop 12
  else if ip.length = IPv6len && x.length = IPv4len then ip.take 12 == v4InV6Prefix && ip.drop 12 == x
  else false

def isUnspecified (ip : IP) : Bool := ip.equal IPv4zero || ip.equal IPv6unspecified

def isLoopback (ip : IP) : Bool :=
  match ip.to4 with
  | some ip4 => ip4.getD 0 0 == 127
  | none => ip.equal IPv6loopback

def isMulticast (ip : IP) : Bool :=
  match ip.to4 with
  | some ip4 => ip4.getD 0 0 &&& 0xf0 == 0xe0
  | none => ip.length == IPv6len && ip.getD 0 0 == 0xff

def isLinkLocalMulticast (ip : IP) : Bool :=
  match ip.to4 with
  | some ip4 => ip4.getD 0 0 == 224 && ip4.getD 1 0 == 0 && ip4.getD 2 0 == 0
  | none => ip.length == IPv6len && ip.getD 0 0 == 0xff && ip.getD 1 0 &&& 0x0f == 0x02

def isLinkLocalUnicast (ip : IP) : Bool :=
  match ip.to4 with
  | some ip4 => ip4.getD 0 0 == 169 && ip4.getD 1 0 == 254
  | none => ip.length == IPv6len && ip.getD 0 0 == 0xfe && ip.getD 1 0 &&& 0xc0 == 0x80

/-- The address a 16-byte slice holds. -/
def toAddr (ip : IP) : IpAddr := .v6 (Fin.ofNat _ (bigEndian ip))

end IP

/-! ## Sixteen-byte slices

Every predicate reads bytes of the slice; `getD_toNat` turns each byte into a
digit of the slice's number `n`, after which the range tests are linear facts
about `n` that `omega` settles. -/

theorem toNat_and_f0 (b : UInt8) : (b &&& 0xf0).toNat = b.toNat / 16 * 16 := by
  rw [UInt8.toNat_and, show (0xf0 : UInt8).toNat = prefixMask 8 4 by decide,
    and_prefixMask b.toNat_lt]
  norm_num

theorem toNat_and_c0 (b : UInt8) : (b &&& 0xc0).toNat = b.toNat / 64 * 64 := by
  rw [UInt8.toNat_and, show (0xc0 : UInt8).toNat = prefixMask 8 2 by decide,
    and_prefixMask b.toNat_lt]
  norm_num

theorem IP.isMulticast_of_isLinkLocalMulticast {ip : IP}
    (linkLocal : ip.isLinkLocalMulticast = true) : ip.isMulticast = true := by
  unfold IP.isLinkLocalMulticast at linkLocal
  unfold IP.isMulticast
  cases found : ip.to4 with
  | some ip4 =>
      rw [found] at linkLocal
      simp only [Bool.and_eq_true, beq_iff_eq] at linkLocal ⊢
      rw [linkLocal.1.1]
      decide
  | none =>
      rw [found] at linkLocal
      simp only [Bool.and_eq_true, beq_iff_eq] at linkLocal ⊢
      exact linkLocal.1

section Sixteen

variable {ip : IP} (sixteen : ip.length = 16)
include sixteen

theorem bigEndian_lt_of_length_16 : bigEndian ip < 2 ^ 128 := by
  simpa [sixteen] using bigEndian_lt ip

theorem byte_toNat {i : Nat} (inside : i < 16) :
    (ip.getD i 0).toNat = bigEndian ip / 256 ^ (15 - i) % 256 := by
  rw [getD_toNat (sixteen ▸ inside), sixteen]

theorem mapped_byte_toNat {i : Nat} (inside : i < 4) :
    ((ip.drop 12).getD i 0).toNat = bigEndian ip % 2 ^ 32 / 256 ^ (3 - i) % 256 := by
  have four : (ip.drop 12).length = 4 := by simp [sixteen]
  rw [getD_toNat (four ▸ inside), four, bigEndian_drop, sixteen]
  norm_num

theorem to4_of_length_16 :
    ip.to4 = if bigEndian ip / 2 ^ 32 = 0xffff then some (ip.drop 12) else none := by
  have zeros : isZeros (ip.take 10) = true ↔ bigEndian ip / 2 ^ 48 = 0 := by
    have taken := bigEndian_take ip 10
    rw [sixteen] at taken
    simp only [isZeros, List.all_eq_true, beq_iff_eq, ← bigEndian_eq_zero_iff, taken]
    norm_num
  have tenth : (ip.getD 10 0).toNat = bigEndian ip / 2 ^ 40 % 256 := by
    rw [byte_toNat sixteen (by norm_num)]
    norm_num
  have eleventh : (ip.getD 11 0).toNat = bigEndian ip / 2 ^ 32 % 256 := by
    rw [byte_toNat sixteen (by norm_num)]
    norm_num
  have small := bigEndian_lt_of_length_16 sixteen
  -- `To4`'s test of the twelve leading bytes is the prefix `::ffff:0:0/96`
  have test : (decide (ip.length = IPv6len) && isZeros (ip.take 10) && ip.getD 10 0 == 0xff &&
      ip.getD 11 0 == 0xff) = decide (bigEndian ip / 2 ^ 32 = 0xffff) := by
    rw [Bool.eq_iff_iff]
    simp only [Bool.and_eq_true, beq_iff_eq, zeros, ← UInt8.toNat_inj, tenth, eleventh,
      decide_eq_true_eq, sixteen, IPv6len, true_and]
    simp only [UInt8.toNat_ofNat]
    omega
  have notFour : ¬ ip.length = IPv4len := by simp [sixteen, IPv4len]
  unfold IP.to4
  rw [if_neg notFour, test]
  simp

theorem toAddr_val : ip.toAddr = .v6 ⟨bigEndian ip, bigEndian_lt_of_length_16 sixteen⟩ := by
  unfold IP.toAddr
  congr 1
  exact Fin.ext (Nat.mod_eq_of_lt (bigEndian_lt_of_length_16 sixteen))

theorem equal_iff {x : IP} (sixteen' : x.length = 16) :
    ip.equal x = true ↔ bigEndian ip = bigEndian x := by
  have same : ip.length = x.length := by rw [sixteen, sixteen']
  simp only [IP.equal, if_pos same, beq_iff_eq]
  exact ⟨congrArg bigEndian, bigEndian_inj same⟩

theorem isLoopback_eq : ip.isLoopback = ip.toAddr.unmap.isLoopback := by
  have small := bigEndian_lt_of_length_16 sixteen
  rw [IP.isLoopback, to4_of_length_16 sixteen, toAddr_val sixteen]
  by_cases mapped : bigEndian ip / 2 ^ 32 = 0xffff
  · have first := mapped_byte_toNat sixteen (i := 0) (by norm_num)
    simp only [if_pos mapped, IpAddr.unmap, IpAddr.isLoopback, inPrefix]
    rw [Bool.eq_iff_iff]
    simp only [beq_iff_eq, ← UInt8.toNat_inj, first, UInt8.toNat_ofNat, Nat.reducePow,
      Nat.reduceSub, Nat.reduceDiv, Nat.reduceMod]
    omega
  · have loopback : bigEndian IPv6loopback = 1 := by decide
    simp only [if_neg mapped, IpAddr.unmap, IpAddr.isLoopback]
    rw [Bool.eq_iff_iff]
    simp only [beq_iff_eq, equal_iff sixteen (by decide : IPv6loopback.length = 16), loopback]


theorem isMulticast_eq : ip.isMulticast = ip.toAddr.unmap.isMulticast := by
  have small := bigEndian_lt_of_length_16 sixteen
  rw [IP.isMulticast, to4_of_length_16 sixteen, toAddr_val sixteen]
  by_cases mapped : bigEndian ip / 2 ^ 32 = 0xffff
  · have first := mapped_byte_toNat sixteen (i := 0) (by norm_num)
    simp only [if_pos mapped, IpAddr.unmap, IpAddr.isMulticast, inPrefix]
    rw [Bool.eq_iff_iff]
    simp only [beq_iff_eq, ← UInt8.toNat_inj, toNat_and_f0, first, UInt8.toNat_ofNat,
      Nat.reducePow, Nat.reduceSub, Nat.reduceDiv, Nat.reduceMod]
    omega
  · have first := byte_toNat sixteen (i := 0) (by norm_num)
    simp only [if_neg mapped, IpAddr.unmap, IpAddr.isMulticast, inPrefix]
    rw [Bool.eq_iff_iff]
    simp only [Bool.and_eq_true, beq_iff_eq, ← UInt8.toNat_inj, first, sixteen, IPv6len,
      UInt8.toNat_ofNat, Nat.reducePow, Nat.reduceSub, Nat.reduceDiv, Nat.reduceMod, Nat.reduceMul,
      true_and]
    omega

theorem isLinkLocalUnicast_eq : ip.isLinkLocalUnicast = ip.toAddr.unmap.isLinkLocal := by
  have small := bigEndian_lt_of_length_16 sixteen
  rw [IP.isLinkLocalUnicast, to4_of_length_16 sixteen, toAddr_val sixteen]
  by_cases mapped : bigEndian ip / 2 ^ 32 = 0xffff
  · have first := mapped_byte_toNat sixteen (i := 0) (by norm_num)
    have second := mapped_byte_toNat sixteen (i := 1) (by norm_num)
    simp only [if_pos mapped, IpAddr.unmap, IpAddr.isLinkLocal, inPrefix]
    rw [Bool.eq_iff_iff]
    simp only [Bool.and_eq_true, beq_iff_eq, ← UInt8.toNat_inj, first, second, UInt8.toNat_ofNat,
      Nat.reducePow, Nat.reduceSub, Nat.reduceDiv, Nat.reduceMod]
    omega
  · have first := byte_toNat sixteen (i := 0) (by norm_num)
    have second := byte_toNat sixteen (i := 1) (by norm_num)
    simp only [if_neg mapped, IpAddr.unmap, IpAddr.isLinkLocal, inPrefix]
    rw [Bool.eq_iff_iff]
    simp only [Bool.and_eq_true, beq_iff_eq, ← UInt8.toNat_inj, first, toNat_and_c0, second,
      sixteen, IPv6len, UInt8.toNat_ofNat, Nat.reducePow, Nat.reduceSub, Nat.reduceDiv,
      Nat.reduceMod, Nat.reduceMul, true_and]
    omega

theorem isUnspecified_eq : ip.isUnspecified = ip.toAddr.unmap.isUnspecified := by
  have small := bigEndian_lt_of_length_16 sixteen
  have zero4 : bigEndian IPv4zero = 0xffff * 2 ^ 32 := by decide
  have zero6 : bigEndian IPv6unspecified = 0 := by decide
  rw [IP.isUnspecified, toAddr_val sixteen, Bool.eq_iff_iff]
  simp only [Bool.or_eq_true, equal_iff sixteen (by decide : IPv4zero.length = 16),
    equal_iff sixteen (by decide : IPv6unspecified.length = 16), zero4, zero6]
  by_cases mapped : bigEndian ip / 2 ^ 32 = 0xffff
  · simp only [IpAddr.unmap, if_pos mapped, IpAddr.isUnspecified, beq_iff_eq]
    omega
  · simp only [IpAddr.unmap, if_neg mapped, IpAddr.isUnspecified, beq_iff_eq]
    omega

end Sixteen

end GoNet
