import AgentSandbox.Lib.PercentEncoding

/-!
# File paths in the Go SDK's `Files` calls

Model of `percentEncode` and `encodeFilePath` (`clients/go/sandbox/files.go`)
on Go strings as byte lists, and of what `Files.Read`, `Files.List` and
`Files.Exists` do before the response: the empty-path error, or the GET
request they hand to `connector.SendRequest`.

`percentEncode` is `PercentEncoding.encode` keeping the RFC 3986 unreserved
bytes (`percentEncode_eq_encode`).  Since `%` and `/` are not kept and the two
dot segments are replaced by their escaped forms, every path is sent as one
opaque segment that decodes back to it.
-/

set_option autoImplicit false

namespace AgentSandbox.GoClient

open PercentEncoding

/-- A Go `string`, as the bytes it holds. -/
abbrev Bytes := List UInt8

/-- The bytes of an ASCII Go string literal. -/
def asciiBytes (s : String) : Bytes := s.toList.map Char.toUInt8

def upperHex : List UInt8 := asciiBytes "0123456789ABCDEF"

/-- The condition on `c` in `percentEncode`: the unreserved bytes
`A-Za-z0-9 - _ . ~`. -/
def isUnreserved (c : UInt8) : Bool :=
  c ≥ 'A'.toUInt8 && c ≤ 'Z'.toUInt8 || c ≥ 'a'.toUInt8 && c ≤ 'z'.toUInt8 ||
    c ≥ '0'.toUInt8 && c ≤ '9'.toUInt8 || c == '-'.toUInt8 || c == '_'.toUInt8 ||
    c == '.'.toUInt8 || c == '~'.toUInt8

def percentEncode (s : List UInt8) : List UInt8 :=
  s.flatMap fun c =>
    if isUnreserved c then [c]
    else ['%'.toUInt8, upperHex.getD (c >>> 4).toNat 0, upperHex.getD (c &&& 0x0f).toNat 0]

def encodeFilePath (path : List UInt8) : List UInt8 :=
  let encoded := percentEncode path
  if encoded = asciiBytes "." then asciiBytes "%2E"
  else if encoded = asciiBytes ".." then asciiBytes "%2E%2E"
  else encoded

/-- The arguments of `connector.SendRequest` that the path decides. -/
structure Request where
  method : String
  endpoint : Bytes
deriving DecidableEq, Repr

/-- `Files`, with what these calls read of it: the value of its `errPrefix`. -/
structure Files where
  errPrefix : String

/-- The start shared by `Files.Read`, `Files.List` and `Files.Exists`, up to
`SendRequest`: `op` names the call in the error, `endpoint` is the route. -/
def Files.fileRequest (f : Files) (op endpoint : String) (path : Bytes) : Except String Request :=
  let errPrefix := f.errPrefix
  if path = [] then .error s!"{errPrefix}: {op}: path must not be empty"
  else .ok ⟨"GET", asciiBytes endpoint ++ encodeFilePath path⟩

def Files.Read (f : Files) (path : Bytes) : Except String Request :=
  f.fileRequest "read" "download/" path

def Files.List (f : Files) (path : Bytes) : Except String Request :=
  f.fileRequest "list" "list/" path

def Files.Exists (f : Files) (path : Bytes) : Except String Request :=
  f.fileRequest "exists" "exists/" path

/-! ## `percentEncode` is percent-encoding of the unreserved set -/

theorem high_nibble_toNat (c : UInt8) : (c >>> 4).toNat = c.toNat / 16 := by
  rw [UInt8.toNat_shiftRight, Nat.shiftRight_eq_div_pow]
  rfl

theorem low_nibble_toNat (c : UInt8) : (c &&& 0x0f).toNat = c.toNat % 16 := by
  rw [UInt8.toNat_and]
  exact Nat.and_two_pow_sub_one_eq_mod _ 4

theorem upperHex_getD : ∀ n < 16, upperHex.getD n 0 = hexDigit n := by decide

theorem percentEncode_eq_encode (s : List UInt8) : percentEncode s = encode isUnreserved s := by
  refine List.flatMap_congr fun c _ => ?_
  have below : c.toNat < 256 := c.toNat_lt
  rw [encodeByte, high_nibble_toNat, low_nibble_toNat, upperHex_getD _ (by omega), upperHex_getD _ (by omega)]
  rfl

theorem isUnreserved_percent : isUnreserved percent = false := by decide

theorem isUnreserved_slash : isUnreserved slash = false := by decide

theorem decode_percentEncode (s : List UInt8) : decode (percentEncode s) = some s := by
  rw [percentEncode_eq_encode]
  exact decode_encode isUnreserved_percent s

/-! ## `encodeFilePath` gives one opaque segment -/

theorem asciiBytes_escapedDot : asciiBytes "%2E" = [percent, hexDigit 2, hexDigit 14] := by decide

theorem asciiBytes_escapedDotDot :
    asciiBytes "%2E%2E" = [percent, hexDigit 2, hexDigit 14, percent, hexDigit 2, hexDigit 14] := by
  decide

theorem encoded_escapedDot : Encoded isUnreserved (asciiBytes "%2E") := by
  rw [asciiBytes_escapedDot]
  exact .escaped (hexDigit_mem_upperDigits (by decide)) (hexDigit_mem_upperDigits (by decide)) .nil

theorem encoded_escapedDotDot : Encoded isUnreserved (asciiBytes "%2E%2E") := by
  rw [asciiBytes_escapedDotDot]
  have two : hexDigit 2 ∈ upperDigits := hexDigit_mem_upperDigits (by decide)
  have fourteen : hexDigit 14 ∈ upperDigits := hexDigit_mem_upperDigits (by decide)
  exact .escaped two fourteen (.escaped two fourteen .nil)

theorem encoded_encodeFilePath (path : List UInt8) : Encoded isUnreserved (encodeFilePath path) := by
  unfold encodeFilePath
  dsimp only
  split
  · exact encoded_escapedDot
  · split
    · exact encoded_escapedDotDot
    · rw [percentEncode_eq_encode]
      exact encoded_encode path

theorem eq_of_percentEncode_eq {path : List UInt8} {text : String} (same : percentEncode path = asciiBytes text) :
    some path = decode (asciiBytes text) := by
  rw [← same, decode_percentEncode]

theorem decode_encodeFilePath (path : List UInt8) : decode (encodeFilePath path) = some path := by
  unfold encodeFilePath
  dsimp only
  split
  case isTrue isDot =>
    rw [eq_of_percentEncode_eq isDot]
    decide
  case isFalse =>
    split
    case isTrue isDotDot =>
      rw [eq_of_percentEncode_eq isDotDot]
      decide
    case isFalse => exact decode_percentEncode path

theorem encodeFilePath_ne_dot (path : List UInt8) : encodeFilePath path ≠ [dot] ∧ encodeFilePath path ≠ [dot, dot] := by
  have dotBytes : asciiBytes "." = [dot] ∧ asciiBytes ".." = [dot, dot] := by decide
  unfold encodeFilePath
  dsimp only
  split
  · decide
  · split
    · decide
    · rename_i notDot notDotDot
      rw [dotBytes.1] at notDot
      rw [dotBytes.2] at notDotDot
      exact ⟨notDot, notDotDot⟩

theorem encodeFilePath_opaque {path : List UInt8} (nonempty : path ≠ []) : OpaqueSegment (encodeFilePath path) where
  nonempty := by
    intro empty
    have decoded := decode_encodeFilePath path
    rw [empty] at decoded
    exact nonempty (Option.some.inj decoded).symm
  noSlash := (encoded_encodeFilePath path).slash_not_mem isUnreserved_slash
  notDot := (encodeFilePath_ne_dot path).1
  notDotDot := (encodeFilePath_ne_dot path).2

theorem fileRequest_of_ne_nil (f : Files) (op endpoint : String) {path : List UInt8} (nonempty : path ≠ []) :
    f.fileRequest op endpoint path = .ok ⟨"GET", asciiBytes endpoint ++ encodeFilePath path⟩ := by
  rw [Files.fileRequest, if_neg nonempty]

/-- `encodeFilePath` writes a path as unreserved bytes and `%XX` triples with
upper-case digits, with no `/` and no dot segment, and decoding gives the path
back; so for a non-empty path `Read`, `List` and `Exists` request their route
followed by one opaque segment that decodes to the path. -/
theorem encodeFilePath_opaqueSegment (path : List UInt8) :
    Encoded isUnreserved (encodeFilePath path) ∧ slash ∉ encodeFilePath path ∧
      encodeFilePath path ≠ [dot] ∧ encodeFilePath path ≠ [dot, dot] ∧
      decode (encodeFilePath path) = some path ∧ Function.Injective encodeFilePath ∧
      ∀ f : Files, path ≠ [] → ∃ seg, OpaqueSegment seg ∧ decode seg = some path ∧
        f.Read path = .ok ⟨"GET", asciiBytes "download/" ++ seg⟩ ∧
        f.List path = .ok ⟨"GET", asciiBytes "list/" ++ seg⟩ ∧
        f.Exists path = .ok ⟨"GET", asciiBytes "exists/" ++ seg⟩ := by
  have injective : Function.Injective encodeFilePath := by
    intro s t same
    have decoded : some s = some t := by
      rw [← decode_encodeFilePath s, same, decode_encodeFilePath t]
    exact Option.some.inj decoded
  refine ⟨encoded_encodeFilePath path, (encoded_encodeFilePath path).slash_not_mem isUnreserved_slash,
    (encodeFilePath_ne_dot path).1, (encodeFilePath_ne_dot path).2, decode_encodeFilePath path, injective, ?_⟩
  intro f nonempty
  exact ⟨encodeFilePath path, encodeFilePath_opaque nonempty, decode_encodeFilePath path,
    fileRequest_of_ne_nil f _ _ nonempty, fileRequest_of_ne_nil f _ _ nonempty,
    fileRequest_of_ne_nil f _ _ nonempty⟩

/-- The path `..` is requested as `download/%2E%2E`. -/
theorem encodeFilePath_opaqueSegment_dotDot :
    ∃ seg, OpaqueSegment seg ∧ decode seg = some (asciiBytes "..") ∧
      Files.Read ⟨""⟩ (asciiBytes "..") = .ok ⟨"GET", asciiBytes "download/" ++ seg⟩ ∧
      Files.List ⟨""⟩ (asciiBytes "..") = .ok ⟨"GET", asciiBytes "list/" ++ seg⟩ ∧
      Files.Exists ⟨""⟩ (asciiBytes "..") = .ok ⟨"GET", asciiBytes "exists/" ++ seg⟩ :=
  (encodeFilePath_opaqueSegment (asciiBytes "..")).2.2.2.2.2.2 ⟨""⟩ (by decide)

end AgentSandbox.GoClient
