import Mathlib.Data.Nat.Digits.Defs
import Mathlib.Data.Nat.Bitwise
import Mathlib.Tactic.Ring

/-!
# IP addresses and their special-purpose ranges

An address of either family is a number below `2 ^ 32` or `2 ^ 128`.  The
ranges a router must never dial on a caller's behalf (loopback, link-local,
multicast, unspecified) are prefixes of these numbers, and an IPv4-mapped IPv6
address `::ffff:a.b.c.d` is read as the IPv4 address it carries.

Libraries store addresses either as byte strings in network order or as
integers tested against netmasks; `bigEndian` and `and_prefixMask_eq_iff`
relate both to the prefixes used here.
-/

set_option autoImplicit false

namespace IpAddress

/-! ## Byte strings in network order -/

/-- The number a byte string denotes in network (big-endian) order. -/
def bigEndian (bytes : List UInt8) : Nat := Nat.ofDigits 256 (bytes.reverse.map UInt8.toNat)

@[simp] theorem bigEndian_nil : bigEndian [] = 0 := rfl

theorem bigEndian_append (l r : List UInt8) :
    bigEndian (l ++ r) = bigEndian l * 256 ^ r.length + bigEndian r := by
  simp only [bigEndian, List.reverse_append, List.map_append, Nat.ofDigits_append,
    List.length_map, List.length_reverse]
  ring

theorem bigEndian_cons (b : UInt8) (l : List UInt8) :
    bigEndian (b :: l) = b.toNat * 256 ^ l.length + bigEndian l := by
  have single : bigEndian [b] = b.toNat := by simp [bigEndian, Nat.ofDigits_singleton]
  rw [← List.singleton_append, bigEndian_append, single]

theorem bigEndian_lt (l : List UInt8) : bigEndian l < 256 ^ l.length := by
  have digits : ∀ x ∈ l.reverse.map UInt8.toNat, x < 256 := by
    simp only [List.mem_map, List.mem_reverse]
    rintro x ⟨b, -, rfl⟩
    exact b.toNat_lt
  simpa [bigEndian] using Nat.ofDigits_lt_base_pow_length (by norm_num) digits

theorem bigEndian_eq_zero_iff {l : List UInt8} : bigEndian l = 0 ↔ ∀ b ∈ l, b = 0 := by
  induction l with
  | nil => simp
  | cons b rest ih =>
      have positive : 0 < 256 ^ rest.length := Nat.pow_pos (by norm_num)
      rw [bigEndian_cons, List.forall_mem_cons, ← ih, ← UInt8.toNat_inj, UInt8.toNat_zero]
      constructor
      · intro zero
        have head : b.toNat * 256 ^ rest.length = 0 := by omega
        exact ⟨(Nat.mul_eq_zero.mp head).resolve_right positive.ne', by omega⟩
      · rintro ⟨head, tail⟩
        simp [head, tail]

theorem bigEndian_inj : ∀ {l r : List UInt8}, l.length = r.length → bigEndian l = bigEndian r → l = r
  | [], [], _, _ => rfl
  | b :: rest, b' :: rest', same, equal => by
      have lengths : rest.length = rest'.length := by simpa using same
      have positive : 0 < 256 ^ rest.length := Nat.pow_pos (by norm_num)
      rw [bigEndian_cons, bigEndian_cons, ← lengths] at equal
      -- the first bytes are the quotients, the rests the remainders
      have heads : b.toNat = b'.toNat := by
        have quotient := congrArg (· / 256 ^ rest.length) equal
        rwa [Nat.add_comm, Nat.add_mul_div_right _ _ positive, Nat.div_eq_of_lt (bigEndian_lt rest),
          Nat.add_comm (_ * _), Nat.add_mul_div_right _ _ positive,
          Nat.div_eq_of_lt (lengths ▸ bigEndian_lt rest'), Nat.zero_add, Nat.zero_add] at quotient
      have tails : bigEndian rest = bigEndian rest' := by
        rw [heads] at equal
        omega
      rw [UInt8.toNat_inj.mp heads, bigEndian_inj lengths tails]

theorem bigEndian_take (l : List UInt8) (k : Nat) :
    bigEndian (l.take k) = bigEndian l / 256 ^ (l.length - k) := by
  have split := bigEndian_append (l.take k) (l.drop k)
  rw [List.take_append_drop, List.length_drop] at split
  have positive : 0 < 256 ^ (l.length - k) := Nat.pow_pos (by norm_num)
  have low : bigEndian (l.drop k) < 256 ^ (l.length - k) := by
    simpa using bigEndian_lt (l.drop k)
  rw [split, Nat.add_comm, Nat.add_mul_div_right _ _ positive, Nat.div_eq_of_lt low, Nat.zero_add]

theorem bigEndian_drop (l : List UInt8) (k : Nat) :
    bigEndian (l.drop k) = bigEndian l % 256 ^ (l.length - k) := by
  have split := bigEndian_append (l.take k) (l.drop k)
  rw [List.take_append_drop, List.length_drop] at split
  have low : bigEndian (l.drop k) < 256 ^ (l.length - k) := by
    simpa using bigEndian_lt (l.drop k)
  rw [split, Nat.add_comm, Nat.add_mul_mod_self_right, Nat.mod_eq_of_lt low]

theorem getD_toNat {l : List UInt8} {i : Nat} (inside : i < l.length) :
    (l.getD i 0).toNat = bigEndian l / 256 ^ (l.length - 1 - i) % 256 := by
  induction l generalizing i with
  | nil => simp at inside
  | cons b rest ih =>
      have positive : ∀ j, 0 < 256 ^ j := fun j => Nat.pow_pos (by norm_num)
      cases i with
      | zero =>
          -- the first byte is the quotient by the weight of the rest
          simp only [List.getD_cons_zero, List.length_cons, Nat.add_sub_cancel, Nat.sub_zero]
          rw [bigEndian_cons, Nat.add_comm, Nat.add_mul_div_right _ _ (positive _),
            Nat.div_eq_of_lt (bigEndian_lt rest), Nat.zero_add, Nat.mod_eq_of_lt b.toNat_lt]
      | succ k =>
          -- a later byte ignores the first, whose weight is a multiple of 256 here
          have later : k < rest.length := by simpa using inside
          simp only [List.getD_cons_succ, List.length_cons]
          rw [ih later, bigEndian_cons]
          have weight : 256 ^ rest.length = 256 ^ k * 256 * 256 ^ (rest.length - 1 - k) := by
            rw [← Nat.pow_succ, ← Nat.pow_add]
            congr 1
            omega
          have index : rest.length + 1 - 1 - (k + 1) = rest.length - 1 - k := by omega
          rw [index, weight, ← Nat.mul_assoc, Nat.add_comm, Nat.add_mul_div_right _ _ (positive _),
            ← Nat.mul_assoc, Nat.add_mul_mod_self_right]

/-! ## Netmasks -/

/-- The netmask of a `len`-bit prefix of `width`-bit addresses: all ones,
with the host bits cleared by xor-ing all ones shifted right by `len`. -/
def prefixMask (width len : Nat) : Nat := (2 ^ width - 1) ^^^ ((2 ^ width - 1) >>> len)

theorem testBit_prefixMask (width len i : Nat) :
    (prefixMask width len).testBit i = (decide (i < width) && !decide (i < width - len)) := by
  simp only [prefixMask, Nat.testBit_xor, Nat.testBit_shiftRight, Nat.testBit_two_pow_sub_one]
  by_cases low : i < width - len
  · simp [low, show len + i < width by omega, show i < width by omega]
  · by_cases high : i < width
    · simp [low, high, show ¬ len + i < width by omega]
    · simp [low, high, show ¬ len + i < width by omega]

/-- Masking a `width`-bit number with a prefix mask keeps its first `len`
bits. -/
theorem and_prefixMask {width len n : Nat} (small : n < 2 ^ width) :
    n &&& prefixMask width len = n / 2 ^ (width - len) * 2 ^ (width - len) := by
  apply Nat.eq_of_testBit_eq
  intro i
  rw [Nat.testBit_and, testBit_prefixMask, Nat.testBit_mul_two_pow, Nat.testBit_div_two_pow]
  by_cases host : i < width - len
  · simp [host, show ¬ width - len ≤ i by omega]
  · by_cases inside : i < width
    · simp [host, inside, show width - len ≤ i by omega, Nat.sub_add_cancel (by omega : width - len ≤ i)]
    · have beyond : n.testBit i = false :=
        Nat.testBit_lt_two_pow (lt_of_lt_of_le small (Nat.pow_le_pow_right (by norm_num) (by omega)))
      simp [host, inside, show width - len ≤ i by omega, Nat.sub_add_cancel (by omega : width - len ≤ i),
        beyond]

/-- A netmask test `n & mask == net` against an aligned network address is the
prefix comparison. -/
theorem and_prefixMask_eq_iff {width len n net : Nat} (small : n < 2 ^ width)
    (aligned : net % 2 ^ (width - len) = 0) :
    n &&& prefixMask width len = net ↔ n / 2 ^ (width - len) = net / 2 ^ (width - len) := by
  have positive : 0 < 2 ^ (width - len) := Nat.pow_pos (by norm_num)
  have netSplit := Nat.div_add_mod net (2 ^ (width - len))
  rw [and_prefixMask small, aligned, Nat.add_zero] at *
  constructor
  · intro same
    rw [← same, Nat.mul_div_cancel _ positive]
  · intro same
    rw [same, Nat.mul_comm]
    exact netSplit

/-! ## Addresses -/

inductive IpAddr
  | v4 (n : Fin (2 ^ 32))
  | v6 (n : Fin (2 ^ 128))
deriving DecidableEq, Repr

/-- `n` lies in `net/len` among `width`-bit addresses: their first `len` bits
agree. -/
def inPrefix (width len net n : Nat) : Bool := n / 2 ^ (width - len) == net / 2 ^ (width - len)

namespace IpAddr

/-- An IPv4-mapped IPv6 address `::ffff:a.b.c.d` read as `a.b.c.d`; every
other address is kept. -/
def unmap : IpAddr → IpAddr
  | v6 n => if n.val / 2 ^ 32 = 0xffff then v4 ⟨n.val % 2 ^ 32, Nat.mod_lt _ (by norm_num)⟩ else v6 n
  | v4 n => v4 n

/-- `127.0.0.0/8` and `::1`. -/
def isLoopback : IpAddr → Bool
  | v4 n => inPrefix 32 8 0x7f000000 n
  | v6 n => n.val == 1

/-- `169.254.0.0/16` and `fe80::/10`. -/
def isLinkLocal : IpAddr → Bool
  | v4 n => inPrefix 32 16 0xa9fe0000 n
  | v6 n => inPrefix 128 10 (0xfe80 * 2 ^ 112) n

/-- `224.0.0.0/4` and `ff00::/8`. -/
def isMulticast : IpAddr → Bool
  | v4 n => inPrefix 32 4 0xe0000000 n
  | v6 n => inPrefix 128 8 (0xff * 2 ^ 120) n

/-- `0.0.0.0` and `::`. -/
def isUnspecified : IpAddr → Bool
  | v4 n => n.val == 0
  | v6 n => n.val == 0

/-- The addresses no client may make a router dial: loopback, link-local,
multicast and unspecified, after reading mapped addresses as IPv4. -/
def isInternal (a : IpAddr) : Bool :=
  a.unmap.isLoopback || a.unmap.isLinkLocal || a.unmap.isMulticast || a.unmap.isUnspecified

end IpAddr

end IpAddress
