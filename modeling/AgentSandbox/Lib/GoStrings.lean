import Mathlib.Data.List.Basic
import Mathlib.Data.String.Basic
import AgentSandbox.Lib.Unordered

/-! # Go string operations

Go strings are modelled by Lean strings: the inputs of the modelled code are
valid UTF-8 text, on which Go's byte-wise operations agree with the
character-wise ones used here.  This module holds the facts about joining and
splitting at a separator that the models rely on. -/

set_option autoImplicit false

namespace GoStrings

section Join
variable {α : Type}

/-- Joining two lists at a separator that the first list does not contain can
be undone: the first separator marks the join. -/
theorem append_sep_inj (sep : α) :
    ∀ {a a' b b' : List α}, sep ∉ a → sep ∉ a' →
      a ++ sep :: b = a' ++ sep :: b' → a = a' ∧ b = b'
  | [], [], _, _, _, _, joined => ⟨rfl, (List.cons.inj joined).2⟩
  | [], x :: _, _, _, _, fresh', joined => by
      have first : sep = x := (List.cons.inj joined).1
      exact absurd (first ▸ List.mem_cons_self) fresh'
  | x :: _, [], _, _, fresh, _, joined => by
      have first : x = sep := (List.cons.inj joined).1
      exact absurd (first ▸ List.mem_cons_self) fresh
  | x :: rest, x' :: rest', _, _, fresh, fresh', joined => by
      obtain ⟨heads, tails⟩ := List.cons.inj joined
      obtain ⟨restEq, tailEq⟩ :=
        append_sep_inj sep (fun m => fresh (List.mem_cons_of_mem x m))
          (fun m => fresh' (List.mem_cons_of_mem x' m)) tails
      exact ⟨heads ▸ restEq ▸ rfl, tailEq⟩

end Join

/-- Joining two strings at a separator character that the first string does
not contain is injective. -/
theorem append_singleton_append_inj {a a' b b' : String} (sep : Char)
    (fresh : sep ∉ a.toList) (fresh' : sep ∉ a'.toList)
    (joined : a ++ String.singleton sep ++ b = a' ++ String.singleton sep ++ b') :
    a = a' ∧ b = b' := by
  have lists := congrArg String.toList joined
  simp only [String.toList_append, String.toList_singleton, List.append_assoc,
    List.singleton_append] at lists
  obtain ⟨first, second⟩ := append_sep_inj sep fresh fresh' lists
  exact ⟨String.ext first, String.ext second⟩

/-! ## Cutting at a separator -/

/-- `strings.Cut` of a character list at a one-character separator: the part
before the first separator and the part after it. -/
def cutList (sep : Char) : List Char → Option (List Char × List Char)
  | [] => none
  | c :: rest =>
      if c = sep then some ([], rest)
      else (cutList sep rest).map fun parts => (c :: parts.1, parts.2)

/-- `strings.Cut(s, sep)` for a one-character separator. -/
def cut (s : String) (sep : Char) : Option (String × String) :=
  (cutList sep s.toList).map fun parts => (String.ofList parts.1, String.ofList parts.2)

/-- `strings.SplitN(s, sep, 2)` for a one-character separator. -/
def splitN2 (s : String) (sep : Char) : List String :=
  match cut s sep with
  | none => [s]
  | some parts => [parts.1, parts.2]

theorem cutList_some {sep : Char} :
    ∀ {l before after : List Char}, cutList sep l = some (before, after) →
      l = before ++ sep :: after ∧ sep ∉ before
  | [], _, _, found => by simp [cutList] at found
  | c :: rest, before, after, found => by
      by_cases hit : c = sep
      · simp only [cutList, hit, if_true, Option.some.injEq, Prod.mk.injEq] at found
        obtain ⟨rfl, rfl⟩ := found
        simp [hit]
      · simp only [cutList, hit, if_false, Option.map_eq_some_iff] at found
        obtain ⟨⟨before', after'⟩, inner, same⟩ := found
        simp only [Prod.mk.injEq] at same
        obtain ⟨rfl, rfl⟩ := same
        obtain ⟨split, fresh⟩ := cutList_some inner
        refine ⟨by simp [split], ?_⟩
        simp only [List.mem_cons, not_or]
        exact ⟨fun same => hit same.symm, fresh⟩

theorem cutList_none {sep : Char} : ∀ {l : List Char}, cutList sep l = none → sep ∉ l
  | [], _ => List.not_mem_nil
  | c :: rest, absent => by
      by_cases hit : c = sep
      · simp [cutList, hit] at absent
      · simp only [cutList, hit, if_false, Option.map_eq_none_iff] at absent
        simp only [List.mem_cons, not_or]
        exact ⟨fun same => hit same.symm, cutList_none absent⟩

theorem cutList_join {sep : Char} {after : List Char} :
    ∀ {before : List Char}, sep ∉ before → cutList sep (before ++ sep :: after) = some (before, after)
  | [], _ => by simp [cutList]
  | c :: rest, fresh => by
      have hit : c ≠ sep := fun same => fresh (same ▸ List.mem_cons_self)
      rw [List.mem_cons, not_or] at fresh
      simp [cutList, hit, cutList_join fresh.2]

/-- When the separator occurs, `SplitN(s, sep, 2)` returns the text before its
first occurrence and the rest. -/
theorem splitN2_eq_pair {s : String} {sep : Char} {before after : String}
    (split : splitN2 s sep = [before, after]) :
    s = before ++ String.singleton sep ++ after ∧ sep ∉ before.toList := by
  unfold splitN2 cut at split
  cases found : cutList sep s.toList with
  | none => simp [found] at split
  | some parts =>
      simp only [found, Option.map_some, List.cons.injEq, and_true] at split
      obtain ⟨rfl, rfl⟩ := split
      obtain ⟨whole, fresh⟩ := cutList_some found
      refine ⟨String.ext ?_, by simpa [String.toList_ofList] using fresh⟩
      simp [String.toList_append, String.toList_ofList, whole]

/-- `SplitN` cuts a joined string at the join when the first part has no
separator. -/
theorem splitN2_join {before after : String} {sep : Char} (fresh : sep ∉ before.toList) :
    splitN2 (before ++ String.singleton sep ++ after) sep = [before, after] := by
  simp [splitN2, cut, cutList_join fresh]

theorem not_mem_after_of_count_le_one {before after : String} {sep : Char}
    (once : (before ++ String.singleton sep ++ after).toList.count sep ≤ 1) :
    sep ∉ after.toList := by
  simp only [String.toList_append, String.toList_singleton, List.count_append,
    List.count_singleton_self] at once
  have none : after.toList.count sep = 0 := by omega
  exact List.count_eq_zero.mp none

theorem splitN2_shape (s : String) (sep : Char) :
    splitN2 s sep = [s] ∨ ∃ before after, splitN2 s sep = [before, after] := by
  unfold splitN2
  cases cut s sep with
  | none => exact Or.inl rfl
  | some parts => exact Or.inr ⟨parts.1, parts.2, rfl⟩

/-! ## Prefixes and suffixes -/

/-- `strings.HasPrefix(s, prefix)`. -/
def hasPrefix (s pre : String) : Bool := pre.toList.isPrefixOf s.toList

/-- `strings.HasSuffix(s, suffix)`. -/
def hasSuffix (s suf : String) : Bool := suf.toList.isSuffixOf s.toList

theorem hasPrefix_iff {s pre : String} : hasPrefix s pre = true ↔ pre.toList <+: s.toList :=
  List.isPrefixOf_iff_prefix

/-- `strings.CutPrefix(s, prefix)`: what follows the prefix, when `s` starts with it. -/
def cutPrefix (s pre : String) : Option String :=
  if hasPrefix s pre then some (String.ofList (s.toList.drop pre.toList.length)) else none

theorem cutPrefix_eq_some {s pre rest : String} : cutPrefix s pre = some rest ↔ s = pre ++ rest := by
  unfold cutPrefix
  constructor
  · intro cut
    split at cut
    · rename_i starts
      obtain ⟨after, split⟩ := hasPrefix_iff.mp starts
      cases cut
      rw [← String.toList_inj, String.toList_append, ← split, List.drop_left, String.toList_ofList]
    · cases cut
  · rintro rfl
    have starts : hasPrefix (pre ++ rest) pre = true :=
      hasPrefix_iff.mpr ⟨rest.toList, String.toList_append.symm⟩
    rw [if_pos starts, String.toList_append, List.drop_left, String.ofList_toList]

/-- `s[:strings.LastIndex(s, string(sep))]` for an ASCII separator that occurs in
`s`: no byte of a multi-byte character is an ASCII byte, so the last such byte
starts the last such character. -/
def beforeLast (s : String) (sep : Char) : Option String :=
  if sep ∈ s.toList then some (String.ofList (s.toList.reverse.dropWhile (· != sep)).tail.reverse) else none

/-! ## Splitting, joining and sorting lists of strings -/

/-- `strings.Split(s, sep)`, and the strings `strings.SplitSeq(s, sep)` yields,
for a non-empty separator. -/
def split (s sep : String) : List String := s.splitOn sep

/-- `strings.Join(elems, sep)`. -/
def join (elems : List String) (sep : String) : String := sep.intercalate elems

open String in
/-- `String.splitOn` at a one-character separator, run from a byte position
inside `ofList (l ++ m ++ r)`: `m` is the part read since the last
separator. -/
theorem splitOnAux_singleton_of_valid (c : Char) (l m r : List Char) (acc : List String) :
    splitOnAux (ofList (l ++ m ++ r)) (String.singleton c) ⟨utf8Len l⟩ ⟨utf8Len l + utf8Len m⟩ 0 acc =
      acc.reverse ++ (List.splitOnPPrepend (· == c) r m.reverse).map ofList := by
  have sepIs : String.singleton c = ofList ([] ++ [c]) := by simp
  have sepGet : Pos.Raw.get (String.singleton c) 0 = c := by
    rw [sepIs]
    exact get_of_valid [] [c]
  have sepNext : Pos.Raw.next (String.singleton c) 0 = ⟨c.utf8Size⟩ := by
    rw [sepIs]
    simpa using next_of_valid [] c []
  have sepEnd : (String.singleton c).rawEndPos ≤ ⟨c.utf8Size⟩ := by
    rw [sepIs, rawEndPos_ofList]
    simp
  induction r generalizing l m acc with
  | nil =>
    unfold splitOnAux
    simp only [List.append_nil, atEnd_iff, rawEndPos_ofList, utf8Len_append, Pos.Raw.mk_le_mk,
      le_refl, if_true]
    simpa using extract_of_valid l m []
  | cons d r ih =>
    unfold splitOnAux
    have notEnd : ¬(ofList (l ++ m ++ d :: r)).rawEndPos ≤ ⟨utf8Len l + utf8Len m⟩ := by
      rw [rawEndPos_ofList, Pos.Raw.mk_le_mk]
      simp only [utf8Len_append, utf8Len_cons]
      have := d.utf8Size_pos
      omega
    have getD : Pos.Raw.get (ofList (l ++ m ++ d :: r)) ⟨utf8Len l + utf8Len m⟩ = d := by
      simpa using get_of_valid (l ++ m) (d :: r)
    have nextD : Pos.Raw.next (ofList (l ++ m ++ d :: r)) ⟨utf8Len l + utf8Len m⟩ =
        ⟨utf8Len l + utf8Len m + d.utf8Size⟩ := by
      simpa using next_of_valid (l ++ m) d r
    simp only [atEnd_iff, notEnd, if_false, getD, sepGet, sepNext, sepEnd, if_true, nextD]
    by_cases hit : d = c
    · -- a separator closes the part read so far
      subst hit
      have closed : Pos.Raw.extract (ofList (l ++ m ++ d :: r)) ⟨utf8Len l⟩
          (Pos.Raw.unoffsetBy ⟨utf8Len l + utf8Len m + d.utf8Size⟩ ⟨d.utf8Size⟩) = ofList m := by
        simpa [Pos.Raw.unoffsetBy] using extract_of_valid l m (d :: r)
      simp only [beq_self_eq_true, if_true, closed]
      simpa [List.splitOnPPrepend_cons_eq_if, Nat.add_assoc] using
        ih (l ++ m ++ [d]) [] (ofList m :: acc)
    · have unmoved : Pos.Raw.unoffsetBy ⟨utf8Len l + utf8Len m⟩ 0 = ⟨utf8Len l + utf8Len m⟩ := by
        simp [Pos.Raw.unoffsetBy]
      simp only [beq_iff_eq, hit, if_false, unmoved, nextD]
      simpa [List.splitOnPPrepend_cons_eq_if, hit, Nat.add_assoc] using ih l (m ++ [d]) acc

/-- Splitting at one character cuts the characters at each occurrence of it,
as Go's `strings.Split` does. -/
theorem split_singleton (s : String) (c : Char) :
    split s (String.singleton c) = (s.toList.splitOn c).map String.ofList := by
  have whole := splitOnAux_singleton_of_valid c [] [] s.toList []
  simp only [List.nil_append, String.ofList_toList, String.utf8Len_nil, List.reverse_nil] at whole
  unfold split String.splitOn
  rw [if_neg (by simp), List.splitOn_eq_splitOnP, List.splitOnP_eq_splitOnPPrepend]
  exact whole

theorem split_join {l : List String} {c : Char} (fresh : ∀ s ∈ l, c ∉ s.toList) :
    split (join l (String.singleton c)) (String.singleton c) = if l = [] then [""] else l := by
  rw [split_singleton, join, String.toList_intercalate]
  split
  · simp_all
  · rename_i nonempty
    rw [String.toList_singleton,
      List.splitOn_intercalate c (by simpa using fresh) (by simpa using nonempty)]
    simp

/-- `slices.Sort` of a `[]string`: Go compares the bytes, which on UTF-8 text is
the order of the characters compared here. -/
def sortStrings (l : List String) : List String := l.mergeSort fun a b => decide (a ≤ b)

theorem sortStrings_eq_of_perm {l l' : List String} (p : l.Perm l') : sortStrings l = sortStrings l' :=
  Unordered.mergeSort_eq_of_perm p

@[simp] theorem mem_sortStrings {l : List String} {s : String} : s ∈ sortStrings l ↔ s ∈ l :=
  List.mem_mergeSort

theorem perm_sortStrings (l : List String) : (sortStrings l).Perm l := List.mergeSort_perm _ _

theorem sortStrings_lt {l : List String} (distinct : l.Nodup) : (sortStrings l).Pairwise (· < ·) := by
  have sorted : (sortStrings l).Pairwise (· ≤ ·) := List.pairwise_mergeSort' (· ≤ ·) l
  have nodup : (sortStrings l).Nodup := (perm_sortStrings l).nodup_iff.mpr distinct
  exact (sorted.and nodup).imp fun ⟨le, ne⟩ => lt_of_le_of_ne le ne


/-! ## Hexadecimal formatting -/

/-- `fmt.Sprintf("%0*x", width, n)`: the lower-case hexadecimal digits of `n`,
padded on the left with `'0'` to `width` characters. -/
def sprintfHex (width n : Nat) : String :=
  let digits := Nat.toDigits 16 n
  String.ofList (List.replicate (width - digits.length) '0' ++ digits)

/-- The lower-case hexadecimal digits. -/
def hexAlphabet : List Char := "0123456789abcdef".toList

/-- The hexadecimal digit of `n` at position `i`, counting from the lowest. -/
def hexDigit (n i : Nat) : Char := Nat.digitChar (n / 16 ^ i % 16)

/-- The `width` lowest hexadecimal digits of `n`, the highest first. -/
def hexDigits (width n : Nat) : List Char := (List.range width).reverse.map (hexDigit n)

example : sprintfHex 8 255 = "000000ff" := by decide

theorem digitChar_injective {a b : Nat} (ha : a < 16) (hb : b < 16) (same : a.digitChar = b.digitChar) :
    a = b := by
  have table : ∀ a < 16, ∀ b < 16, a.digitChar = b.digitChar → a = b := by decide
  exact table a ha b hb same

theorem digitChar_mem_hexAlphabet {d : Nat} (digit : d < 16) : d.digitChar ∈ hexAlphabet := by
  have table : ∀ d < 16, d.digitChar ∈ hexAlphabet := by decide
  exact table d digit

theorem exists_digitChar_of_mem {c : Char} (mem : c ∈ hexAlphabet) : ∃ d < 16, d.digitChar = c := by
  have table : ∀ d < 16, hexAlphabet.getD d '0' = d.digitChar := by decide
  have length : hexAlphabet.length = 16 := by decide
  obtain ⟨d, inRange, found⟩ := List.getElem_of_mem mem
  have below : d < 16 := length ▸ inRange
  refine ⟨d, below, ?_⟩
  rw [← table d below, List.getD_eq_getElem?_getD, List.getElem?_eq_getElem inRange, Option.getD_some, found]

theorem hexDigit_mem_hexAlphabet (n i : Nat) : hexDigit n i ∈ hexAlphabet :=
  digitChar_mem_hexAlphabet (Nat.mod_lt _ (by decide))

theorem mem_hexDigits {width n : Nat} {c : Char} (mem : c ∈ hexDigits width n) : c ∈ hexAlphabet := by
  obtain ⟨i, _, rfl⟩ := List.mem_map.mp mem
  exact hexDigit_mem_hexAlphabet n i

theorem hexDigit_succ (n i : Nat) : hexDigit n (i + 1) = hexDigit (n / 16) i := by
  rw [hexDigit, hexDigit, Nat.pow_succ, Nat.mul_comm, ← Nat.div_div_eq_div_mul]

theorem hexDigits_succ (width n : Nat) :
    hexDigits (width + 1) n = hexDigits width (n / 16) ++ [hexDigit n 0] := by
  simp only [hexDigits, List.range_succ_eq_map, List.reverse_cons, List.map_append, List.map_reverse,
    List.map_map, List.map_cons, List.map_nil]
  congr 2
  exact List.map_congr_left fun i _ => hexDigit_succ n i

theorem hexDigits_zero (width : Nat) : hexDigits width 0 = List.replicate width '0' := by
  induction width with
  | zero => rfl
  | succ width ih =>
    rw [hexDigits_succ, Nat.zero_div, ih, List.replicate_succ']
    rfl

theorem length_hexDigits (width n : Nat) : (hexDigits width n).length = width := by
  simp [hexDigits]

/-- Below `16 ^ (k + 1)`, the padded output of `%0*x` is the fixed-width
digits; induction on the width, one `toDigits` step at a time. -/
theorem sprintfHex_toList {k n : Nat} (bound : n < 16 ^ (k + 1)) :
    (sprintfHex (k + 1) n).toList = hexDigits (k + 1) n := by
  induction k generalizing n with
  | zero =>
    have small : n < 16 := by simpa using bound
    simp [sprintfHex, Nat.toDigits_of_lt_base small, hexDigits, hexDigit, Nat.mod_eq_of_lt small]
  | succ k ih =>
    rw [hexDigits_succ, hexDigit, Nat.pow_zero, Nat.div_one]
    by_cases small : n < 16
    · have high : n / 16 = 0 := Nat.div_eq_of_lt small
      simp [sprintfHex, Nat.toDigits_of_lt_base small, high, hexDigits_zero, Nat.mod_eq_of_lt small,
        List.replicate_succ']
    · have rest : n / 16 < 16 ^ (k + 1) := by
        rw [Nat.pow_succ] at bound
        omega
      have digits := Nat.toDigits_of_base_le (by decide : 1 < 16) (Nat.le_of_not_lt small)
      rw [← ih rest]
      simp only [sprintfHex, String.toList_ofList, digits, List.length_append, List.length_singleton]
      rw [← List.append_assoc]
      congr 3
      omega

theorem hexDigits_injective {width n m : Nat} (boundN : n < 16 ^ width) (boundM : m < 16 ^ width)
    (same : hexDigits width n = hexDigits width m) : n = m := by
  induction width generalizing n m with
  | zero => simp_all
  | succ width ih =>
    rw [hexDigits_succ, hexDigits_succ] at same
    obtain ⟨high, low⟩ := List.append_inj' same rfl
    have lowDigit : n % 16 = m % 16 := by
      simp only [List.cons.injEq, and_true, hexDigit, Nat.pow_zero, Nat.div_one] at low
      exact digitChar_injective (Nat.mod_lt _ (by decide)) (Nat.mod_lt _ (by decide)) low
    have highDigits : n / 16 = m / 16 := by
      rw [Nat.pow_succ] at boundN boundM
      exact ih (by omega) (by omega) high
    omega

/-- Every string of `width` hexadecimal digits is the digits of a number below
`16 ^ width`; induction on the width, splitting off the last digit. -/
theorem exists_hexDigits {width : Nat} :
    ∀ {l : List Char}, l.length = width → (∀ c ∈ l, c ∈ hexAlphabet) →
      ∃ n < 16 ^ width, hexDigits width n = l := by
  induction width with
  | zero =>
    intro l length _
    exact ⟨0, by decide, by simp_all [hexDigits]⟩
  | succ width ih =>
    intro l length digits
    obtain ⟨front, c, rfl⟩ : ∃ front c, l = front ++ [c] := by
      rcases List.eq_nil_or_concat l with empty | ⟨front, c, split⟩
      · simp [empty] at length
      · exact ⟨front, c, by simpa using split⟩
    have frontLength : front.length = width := by simpa using length
    obtain ⟨high, highBound, highDigits⟩ :=
      ih frontLength fun x mem => digits x (List.mem_append_left _ mem)
    obtain ⟨d, digit, named⟩ := exists_digitChar_of_mem (digits c (by simp))
    refine ⟨16 * high + d, ?_, ?_⟩
    · rw [Nat.pow_succ]
      omega
    · have quotient : (16 * high + d) / 16 = high := by omega
      have remainder : (16 * high + d) % 16 = d := by omega
      rw [hexDigits_succ, quotient, highDigits, hexDigit, Nat.pow_zero, Nat.div_one, remainder, named]

/-! ## Spaces -/

/-- `unicode.IsSpace`: the Latin-1 spaces, and the other characters of Unicode's `White_Space`. -/
def isSpace (c : Char) : Bool :=
  match c.toNat with
  | 0x09 | 0x0A | 0x0B | 0x0C | 0x0D | 0x20 | 0x85 | 0xA0 => true
  | 0x1680 | 0x2028 | 0x2029 | 0x202F | 0x205F | 0x3000 => true
  | n => decide (0x2000 ≤ n ∧ n ≤ 0x200A)

/-- `strings.TrimSpace`: the string without its leading and trailing spaces. -/
def trimSpace (s : String) : String :=
  String.ofList ((s.toList.dropWhile isSpace).reverse.dropWhile isSpace).reverse

/-! ## `strconv.Atoi` -/

/-- The sign `Atoi` reads off the front of its argument, and the rest. -/
def atoiSign : List Char → Bool × List Char
  | '-' :: rest => (true, rest)
  | '+' :: rest => (false, rest)
  | cs => (false, cs)

/-- The value of a list of decimal digits. -/
def decimalValue (digits : List Char) : Nat :=
  digits.foldl (fun acc c => 10 * acc + (c.toNat - '0'.toNat)) 0

/-- `strconv.Atoi`, which is `ParseInt(s, 10, 0)` for a 64-bit `int`: an optional sign and
at least one decimal digit, whose value fits in 64 bits (a magnitude of at most `2^63` below
zero, `2^63 - 1` above); anything else is an error. -/
def atoi (s : String) : Option Int :=
  let signed := atoiSign s.toList
  if signed.2.isEmpty || !signed.2.all Char.isDigit then none
  else if signed.1 then
    if decimalValue signed.2 ≤ 9223372036854775808 then some (-(decimalValue signed.2 : Int)) else none
  else if decimalValue signed.2 ≤ 9223372036854775807 then some (decimalValue signed.2 : Int) else none

example : atoi "8888" = some 8888 ∧ atoi "-0" = some 0 ∧ atoi "+80" = some 80 := by decide

example : atoi "" = none ∧ atoi "-" = none ∧ atoi "80a" = none ∧ atoi "1_000" = none := by decide

end GoStrings
