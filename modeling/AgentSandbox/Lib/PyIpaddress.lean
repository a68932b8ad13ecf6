import Mathlib
import AgentSandbox.Lib.IpAddress

/-!
# CPython's `ipaddress` predicates

`IPv4Address` and `IPv6Address` hold their address as the integer `_ip`, which
their constructors keep below `2 ^ 32` and `2 ^ 128`; here that is the `Fin` of
`IpAddr`.  The predicates are those of CPython 3.14's `Lib/ipaddress.py`: a
network test is `other._ip & netmask == network_address._ip`, and every
`IPv6Address` predicate asks the IPv4 address of an IPv4-mapped address first.
Each one is the range test of `IpAddress` after unmapping
(`isLoopback_eq` and the lemmas after it).
-/

set_option autoImplicit false

namespace PyIpaddress

open IpAddress

/-- `_BaseNetwork.__contains__` for an address of the network's version. -/
def contains (width : Nat) (network prefixlen : Nat) (ip : Nat) : Bool :=
  ip &&& prefixMask width prefixlen == network

namespace IPv4Address

def isLoopback (ip : Fin (2 ^ 32)) : Bool := contains 32 0x7f000000 8 ip
def isLinkLocal (ip : Fin (2 ^ 32)) : Bool := contains 32 0xa9fe0000 16 ip
def isMulticast (ip : Fin (2 ^ 32)) : Bool := contains 32 0xe0000000 4 ip
def isUnspecified (ip : Fin (2 ^ 32)) : Bool := ip.val == 0

end IPv4Address

namespace IPv6Address

def ipv4Mapped (ip : Fin (2 ^ 128)) : Option (Fin (2 ^ 32)) :=
  if ip.val >>> 32 != 0xffff then none
  else some ⟨ip.val &&& 0xffffffff, Nat.and_lt_two_pow _ (by norm_num)⟩

def isLoopback (ip : Fin (2 ^ 128)) : Bool :=
  match ipv4Mapped ip with
  | some mapped => IPv4Address.isLoopback mapped
  | none => ip.val == 1

def isLinkLocal (ip : Fin (2 ^ 128)) : Bool :=
  match ipv4Mapped ip with
  | some mapped => IPv4Address.isLinkLocal mapped
  | none => contains 128 (0xfe80 * 2 ^ 112) 10 ip

def isMulticast (ip : Fin (2 ^ 128)) : Bool :=
  match ipv4Mapped ip with
  | some mapped => IPv4Address.isMulticast mapped
  | none => contains 128 (0xff * 2 ^ 120) 8 ip

def isUnspecified (ip : Fin (2 ^ 128)) : Bool :=
  match ipv4Mapped ip with
  | some mapped => IPv4Address.isUnspecified mapped
  | none => ip.val == 0

end IPv6Address

/-! Python dispatches on the class of the object `ip_address` returned. -/

def isLoopback : IpAddr → Bool
  | .v4 ip => IPv4Address.isLoopback ip
  | .v6 ip => IPv6Address.isLoopback ip

def isLinkLocal : IpAddr → Bool
  | .v4 ip => IPv4Address.isLinkLocal ip
  | .v6 ip => IPv6Address.isLinkLocal ip

def isMulticast : IpAddr → Bool
  | .v4 ip => IPv4Address.isMulticast ip
  | .v6 ip => IPv6Address.isMulticast ip

def isUnspecified : IpAddr → Bool
  | .v4 ip => IPv4Address.isUnspecified ip
  | .v6 ip => IPv6Address.isUnspecified ip

/-! ## The predicates are the ranges of `IpAddress` -/

theorem contains_eq_inPrefix {width network prefixlen ip : Nat} (small : ip < 2 ^ width)
    (aligned : network % 2 ^ (width - prefixlen) = 0) :
    contains width network prefixlen ip = inPrefix width prefixlen network ip := by
  rw [contains, inPrefix, Bool.eq_iff_iff, beq_iff_eq, beq_iff_eq]
  exact and_prefixMask_eq_iff small aligned

namespace IPv4Address

variable (ip : Fin (2 ^ 32))

theorem isLoopback_eq : isLoopback ip = (IpAddr.v4 ip).isLoopback :=
  contains_eq_inPrefix ip.isLt (by norm_num)

theorem isLinkLocal_eq : isLinkLocal ip = (IpAddr.v4 ip).isLinkLocal :=
  contains_eq_inPrefix ip.isLt (by norm_num)

theorem isMulticast_eq : isMulticast ip = (IpAddr.v4 ip).isMulticast :=
  contains_eq_inPrefix ip.isLt (by norm_num)

theorem isUnspecified_eq : isUnspecified ip = (IpAddr.v4 ip).isUnspecified := rfl

end IPv4Address

namespace IPv6Address

variable {ip : Fin (2 ^ 128)}

theorem ipv4Mapped_of_mapped (mapped : ip.val / 2 ^ 32 = 0xffff) :
    ipv4Mapped ip = some ⟨ip.val % 2 ^ 32, Nat.mod_lt _ (by norm_num)⟩ := by
  have high : (ip.val >>> 32 != 0xffff) = false := by
    rw [Nat.shiftRight_eq_div_pow, mapped]
    rfl
  have low : ip.val &&& 0xffffffff = ip.val % 2 ^ 32 := Nat.and_two_pow_sub_one_eq_mod _ 32
  simp only [ipv4Mapped, high, Bool.false_eq_true, if_false, low]

theorem ipv4Mapped_of_not_mapped (unmapped : ¬ ip.val / 2 ^ 32 = 0xffff) : ipv4Mapped ip = none := by
  have high : (ip.val >>> 32 != 0xffff) = true := by
    rw [Nat.shiftRight_eq_div_pow, bne_iff_ne]
    exact unmapped
  simp only [ipv4Mapped, high, if_true]

theorem unmap_of_mapped (mapped : ip.val / 2 ^ 32 = 0xffff) :
    (IpAddr.v6 ip).unmap = .v4 ⟨ip.val % 2 ^ 32, Nat.mod_lt _ (by norm_num)⟩ := by
  simp only [IpAddr.unmap, if_pos mapped]

theorem unmap_of_not_mapped (unmapped : ¬ ip.val / 2 ^ 32 = 0xffff) :
    (IpAddr.v6 ip).unmap = .v6 ip := by
  simp only [IpAddr.unmap, if_neg unmapped]

theorem isLoopback_eq : isLoopback ip = (IpAddr.v6 ip).unmap.isLoopback := by
  by_cases mapped : ip.val / 2 ^ 32 = 0xffff
  · rw [isLoopback, ipv4Mapped_of_mapped mapped, unmap_of_mapped mapped]
    exact IPv4Address.isLoopback_eq _
  · rw [isLoopback, ipv4Mapped_of_not_mapped mapped, unmap_of_not_mapped mapped]
    rfl

theorem isLinkLocal_eq : isLinkLocal ip = (IpAddr.v6 ip).unmap.isLinkLocal := by
  by_cases mapped : ip.val / 2 ^ 32 = 0xffff
  · rw [isLinkLocal, ipv4Mapped_of_mapped mapped, unmap_of_mapped mapped]
    exact IPv4Address.isLinkLocal_eq _
  · rw [isLinkLocal, ipv4Mapped_of_not_mapped mapped, unmap_of_not_mapped mapped]
    exact contains_eq_inPrefix ip.isLt (by norm_num)

theorem isMulticast_eq : isMulticast ip = (IpAddr.v6 ip).unmap.isMulticast := by
  by_cases mapped : ip.val / 2 ^ 32 = 0xffff
  · rw [isMulticast, ipv4Mapped_of_mapped mapped, unmap_of_mapped mapped]
    exact IPv4Address.isMulticast_eq _
  · rw [isMulticast, ipv4Mapped_of_not_mapped mapped, unmap_of_not_mapped mapped]
    exact contains_eq_inPrefix ip.isLt (by norm_num)

theorem isUnspecified_eq : isUnspecified ip = (IpAddr.v6 ip).unmap.isUnspecified := by
  by_cases mapped : ip.val / 2 ^ 32 = 0xffff
  · rw [isUnspecified, ipv4Mapped_of_mapped mapped, unmap_of_mapped mapped]
    rfl
  · rw [isUnspecified, ipv4Mapped_of_not_mapped mapped, unmap_of_not_mapped mapped]
    rfl

end IPv6Address

variable (a : IpAddr)

theorem isLoopback_eq : isLoopback a = a.unmap.isLoopback := by
  cases a with
  | v4 ip => exact IPv4Address.isLoopback_eq ip
  | v6 ip => exact IPv6Address.isLoopback_eq

theorem isLinkLocal_eq : isLinkLocal a = a.unmap.isLinkLocal := by
  cases a with
  | v4 ip => exact IPv4Address.isLinkLocal_eq ip
  | v6 ip => exact IPv6Address.isLinkLocal_eq

theorem isMulticast_eq : isMulticast a = a.unmap.isMulticast := by
  cases a with
  | v4 ip => exact IPv4Address.isMulticast_eq ip
  | v6 ip => exact IPv6Address.isMulticast_eq

theorem isUnspecified_eq : isUnspecified a = a.unmap.isUnspecified := by
  cases a with
  | v4 ip => exact IPv4Address.isUnspecified_eq ip
  | v6 ip => exact IPv6Address.isUnspecified_eq

end PyIpaddress
