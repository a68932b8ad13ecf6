import Mathlib.Data.List.Basic

/-!
# Percent-encoding of byte strings

RFC 3986 §2.1: a byte outside a chosen set of kept bytes is written as `%`
followed by its two hexadecimal digits, upper case.  `encode keep` escapes
every byte that `keep` rejects, one byte at a time; `decode` is what a server
runs on a path segment (a hexadecimal digit of either case, a `%` that does
not start a triple is an error).

Whenever `%` itself is escaped, `decode` undoes `encode` (`decode_encode`), so
`encode` is injective, and the output is made of kept bytes and `%XX` triples
only (`encoded_encode`).  `OpaqueSegment` is what a path segment must be for a
normalising server to leave it alone.
-/

set_option autoImplicit false

namespace PercentEncoding

/-- The escape byte `%`. -/
def percent : UInt8 := 37

/-- The path separator `/`. -/
def slash : UInt8 := 47

/-- The byte `.`, of which dot segments are made. -/
def dot : UInt8 := 46

/-- The upper-case hexadecimal digit of a nibble. -/
def hexDigit (n : Nat) : UInt8 := if n < 10 then (48 + n).toUInt8 else (55 + n).toUInt8

/-- The sixteen upper-case hexadecimal digits. -/
def upperDigits : List UInt8 := (List.range 16).map hexDigit

/-- The value of a hexadecimal digit of either case. -/
def hexValue (b : UInt8) : Option Nat :=
  if 48 ≤ b.toNat ∧ b.toNat ≤ 57 then some (b.toNat - 48)
  else if 65 ≤ b.toNat ∧ b.toNat ≤ 70 then some (b.toNat - 55)
  else if 97 ≤ b.toNat ∧ b.toNat ≤ 102 then some (b.toNat - 87)
  else none

def encodeByte (keep : UInt8 → Bool) (c : UInt8) : List UInt8 :=
  if keep c then [c] else [percent, hexDigit (c.toNat / 16), hexDigit (c.toNat % 16)]

def encode (keep : UInt8 → Bool) (s : List UInt8) : List UInt8 := s.flatMap (encodeByte keep)

def decode : List UInt8 → Option (List UInt8)
  | [] => some []
  | c :: rest =>
    if c = percent then
      match rest with
      | h :: l :: rest => do
        let hi ← hexValue h
        let lo ← hexValue l
        let tail ← decode rest
        pure ((16 * hi + lo).toUInt8 :: tail)
      | _ => none
    else (c :: ·) <$> decode rest

/-- The shape of percent-encoded text: kept bytes and `%XX` triples with
upper-case digits. -/
inductive Encoded (keep : UInt8 → Bool) : List UInt8 → Prop
  | nil : Encoded keep []
  | kept {c : UInt8} {rest : List UInt8} : keep c = true → Encoded keep rest → Encoded keep (c :: rest)
  | escaped {h l : UInt8} {rest : List UInt8} :
      h ∈ upperDigits → l ∈ upperDigits → Encoded keep rest → Encoded keep (percent :: h :: l :: rest)

/-- A single path segment that dot-segment removal (RFC 3986 §5.2.4) and
splitting at `/` both leave as it is. -/
structure OpaqueSegment (seg : List UInt8) : Prop where
  nonempty : seg ≠ []
  noSlash : slash ∉ seg
  notDot : seg ≠ [dot]
  notDotDot : seg ≠ [dot, dot]

theorem hexValue_hexDigit : ∀ n < 16, hexValue (hexDigit n) = some n := by decide

theorem hexDigit_mem_upperDigits {n : Nat} (small : n < 16) : hexDigit n ∈ upperDigits :=
  List.mem_map.mpr ⟨n, List.mem_range.mpr small, rfl⟩

theorem decode_escape (c : UInt8) (rest : List UInt8) :
    decode (percent :: hexDigit (c.toNat / 16) :: hexDigit (c.toNat % 16) :: rest) = (c :: ·) <$> decode rest := by
  have below : c.toNat < 256 := c.toNat_lt
  have high : c.toNat / 16 < 16 := by omega
  have low : c.toNat % 16 < 16 := by omega
  have whole : (16 * (c.toNat / 16) + c.toNat % 16).toUInt8 = c := by
    rw [Nat.div_add_mod]
    exact UInt8.ofNat_toNat
  rw [decode, if_pos rfl]
  simp only [hexValue_hexDigit _ high, hexValue_hexDigit _ low, Option.bind_eq_bind, Option.bind_some, whole]
  cases decode rest <;> rfl

theorem decode_cons_of_ne {c : UInt8} (other : c ≠ percent) (rest : List UInt8) :
    decode (c :: rest) = (c :: ·) <$> decode rest := by
  rw [decode.eq_def]
  simp only [if_neg other]

section Keep

variable {keep : UInt8 → Bool}

@[simp] theorem encode_nil : encode keep [] = [] := rfl

@[simp] theorem encode_cons (c : UInt8) (s : List UInt8) :
    encode keep (c :: s) = encodeByte keep c ++ encode keep s :=
  List.flatMap_cons

theorem decode_encodeByte_append (escapesPercent : keep percent = false) (c : UInt8) (rest : List UInt8) :
    decode (encodeByte keep c ++ rest) = (c :: ·) <$> decode rest := by
  unfold encodeByte
  split
  case isTrue kept =>
    have other : c ≠ percent := by
      rintro rfl
      rw [escapesPercent] at kept
      cases kept
    exact decode_cons_of_ne other rest
  case isFalse => exact decode_escape c rest

theorem decode_encode (escapesPercent : keep percent = false) : ∀ s, decode (encode keep s) = some s
  | [] => rfl
  | c :: s => by
    rw [encode_cons, decode_encodeByte_append escapesPercent, decode_encode escapesPercent s]
    rfl

theorem encode_injective (escapesPercent : keep percent = false) : Function.Injective (encode keep) := by
  intro s t same
  have decoded : some s = some t := by
    rw [← decode_encode escapesPercent s, same, decode_encode escapesPercent t]
  exact Option.some.inj decoded

theorem Encoded.append {s t : List UInt8} (first : Encoded keep s) (second : Encoded keep t) :
    Encoded keep (s ++ t) := by
  induction first with
  | nil => exact second
  | kept kept _ ih => exact .kept kept ih
  | escaped high low _ ih => exact .escaped high low ih

theorem encoded_encodeByte (c : UInt8) : Encoded keep (encodeByte keep c) := by
  have below : c.toNat < 256 := c.toNat_lt
  unfold encodeByte
  split
  case isTrue kept => exact .kept kept .nil
  case isFalse =>
    exact .escaped (hexDigit_mem_upperDigits (by omega)) (hexDigit_mem_upperDigits (by omega)) .nil

theorem encoded_encode : ∀ s, Encoded keep (encode keep s)
  | [] => .nil
  | c :: s => (encoded_encodeByte c).append (encoded_encode s)

theorem Encoded.mem {s : List UInt8} (encoded : Encoded keep s) {b : UInt8} (mem : b ∈ s) :
    keep b = true ∨ b = percent ∨ b ∈ upperDigits := by
  induction encoded with
  | nil => cases mem
  | kept kept _ ih =>
    rcases List.mem_cons.mp mem with rfl | later
    · exact .inl kept
    · exact ih later
  | escaped high low _ ih =>
    simp only [List.mem_cons] at mem
    rcases mem with rfl | rfl | rfl | later
    · exact .inr (.inl rfl)
    · exact .inr (.inr high)
    · exact .inr (.inr low)
    · exact ih later

theorem Encoded.slash_not_mem {s : List UInt8} (encoded : Encoded keep s) (escapesSlash : keep slash = false) :
    slash ∉ s := by
  intro mem
  rcases encoded.mem mem with kept | isPercent | digit
  · rw [escapesSlash] at kept
    cases kept
  · cases isPercent
  · revert digit
    decide

end Keep

end PercentEncoding
