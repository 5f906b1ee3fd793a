import Mathlib.Data.Int.Defs
import Mathlib.Algebra.Group.Int
import Mathlib.Algebra.Ring.Int.Defs
import Mathlib.Algebra.Order.Ring.Nat
import Mathlib.Data.Nat.Digits
import Mathlib.Tactic.Ring

/-! # Go integer arithmetic and parsing

The daemons are written in Go, whose `int`, `time.Duration` and `time.Time` arithmetic the
model embeds over `Int`. Go's `/` and `%` truncate toward zero (`Int.tdiv`, `Int.tmod`), and
its 64-bit products wrap modulo `2 ^ 64` (`Trustydns.Go.wrapInt64`). Times are nanoseconds
since Go's zero `time.Time`, so `time.Time{}` is `0` and `Before`, `After` and `Add` are `<`,
`>` and `+`. `strconv.ParseUint` in base 10 reads the decimal prefix lengths and `Age`
values the programs receive, and `strings.Split` and `strings.LastIndexByte` cut the texts
they come in; strings are read as lists of characters, which agrees with Go's byte indexing on
the ASCII texts these are.
-/

namespace Trustydns.Go

/-- Two's-complement reduction of an integer to the `int64` range, as Go's wrapping
arithmetic on `int64` and `time.Duration` computes it. -/
def wrapInt64 (x : Int) : Int :=
  (x + 2 ^ 63) % 2 ^ 64 - 2 ^ 63

/-- `math.MaxInt64`. -/
def MaxInt64 : Int := 2 ^ 63 - 1

/-- A value of the `int64` range. -/
def InInt64 (x : Int) : Prop :=
  -2 ^ 63 ≤ x ∧ x ≤ MaxInt64

/-- Go's `a * b` on `int64` operands. -/
def mul64 (a b : Int) : Int :=
  wrapInt64 (a * b)

/-- Go's `a + b` on `int64` operands. -/
def add64 (a b : Int) : Int :=
  wrapInt64 (a + b)

/-- Go's `a / b` on integers: truncating division. -/
def quo (a b : Int) : Int :=
  a.tdiv b

/-- Go's `a % b` on integers: the remainder of truncating division. -/
def rem (a b : Int) : Int :=
  a.tmod b

/-- A value already in the `int64` range is not changed by wrapping. -/
theorem wrapInt64_of_mem {x : Int} (lower : -2 ^ 63 ≤ x) (upper : x < 2 ^ 63) :
    wrapInt64 x = x := by
  unfold wrapInt64
  rw [Int.emod_eq_of_lt (by omega) (by omega)]
  omega

theorem wrapInt64_of_inInt64 {x : Int} (fits : InInt64 x) : wrapInt64 x = x :=
  wrapInt64_of_mem fits.1 (by have := fits.2; unfold MaxInt64 at this; omega)

/-- On a nonnegative dividend and divisor Go's remainder is the Euclidean one. -/
theorem rem_eq_emod {a b : Int} (nonneg : 0 ≤ a) (divisor : 0 ≤ b) : rem a b = a % b :=
  Int.tmod_eq_emod nonneg divisor

/-- On a nonnegative dividend and a positive divisor Go's remainder lies in `[0, b)`. -/
theorem rem_mem_range {a b : Int} (nonneg : 0 ≤ a) (pos : 0 < b) :
    0 ≤ rem a b ∧ rem a b < b :=
  ⟨Int.tmod_nonneg b nonneg, Int.tmod_lt_of_pos a pos⟩

/-- Advancing an index round-robin over `n ≥ 2` slots always moves it. -/
theorem rem_succ_ne {i n : Int} (nonneg : 0 ≤ i) (below : i < n) (two : 2 ≤ n) :
    rem (i + 1) n ≠ i := by
  rw [rem_eq_emod (by omega) (by omega)]
  by_cases last : i + 1 = n
  · rw [last, Int.emod_self]
    omega
  · rw [Int.emod_eq_of_lt (by omega) (by omega)]
    omega

/-! ## strconv -/

/-- The errors of `strconv.ParseUint` in base 10. -/
inductive NumError
  | ErrSyntax
  | ErrRange
deriving DecidableEq, Repr

/-- `(*NumError).Error()` of `strconv.ParseUint(s, ...)`; `strconv.Quote` is written for
strings without quotes, backslashes or unprintable characters, which it leaves as they are. -/
def NumError.Error (s : String) : NumError → String
  | .ErrSyntax => "strconv.ParseUint: parsing \x22" ++ s ++ "\x22: invalid syntax"
  | .ErrRange => "strconv.ParseUint: parsing \x22" ++ s ++ "\x22: value out of range"

/-- The digit loop of `strconv.ParseUint` in base 10 with maximum `maxVal`: a non-digit is a
syntax error, and a value past `cutoff = maxUint64/10 + 1` or past `maxVal` is a range
error, each where the loop meets it. -/
def parseUintLoop (maxVal : Nat) (n : Nat) : List Char → Except NumError Nat
  | [] => .ok n
  | c :: rest =>
      if '0' ≤ c ∧ c ≤ '9' then
        if n ≥ (2 ^ 64 - 1) / 10 + 1 then .error .ErrRange
        else
          let n1 := n * 10 + (c.toNat - '0'.toNat)
          if n1 > maxVal then .error .ErrRange else parseUintLoop maxVal n1 rest
      else .error .ErrSyntax

/-- `strconv.ParseUint(s, 10, bitSize)`. -/
def ParseUint (s : String) (bitSize : Nat) : Except NumError Nat :=
  if s = "" then .error .ErrSyntax else parseUintLoop (2 ^ bitSize - 1) 0 s.toList

example : ParseUint "24" 8 = .ok 24 := rfl

example : ParseUint "256" 8 = .error .ErrRange := rfl

/-! ### What `ParseUint` accepts

`ParseUint` in base 10 accepts exactly the non-empty texts of ASCII digits whose value fits in
`bitSize` bits, leading zeros included, and returns that value
(`Trustydns.Go.ParseUint_eq_ok_iff`). The value is `Nat.ofDigits` of the digits, the least
significant first. -/

/-- A non-empty text of ASCII decimal digits. -/
def Decimal (ds : List Char) : Prop :=
  ds ≠ [] ∧ ∀ c ∈ ds, c.isDigit

instance : DecidablePred Decimal := fun _ => inferInstanceAs (Decidable (_ ∧ _))

/-- The number a text of decimal digits stands for, written most significant digit first. -/
def decimalValue (ds : List Char) : Nat :=
  Nat.ofDigits 10 (ds.reverse.map fun c => c.toNat - '0'.toNat)

example : Decimal "0024".toList ∧ decimalValue "0024".toList = 24 := by decide

theorem isDigit_iff (c : Char) : c.isDigit ↔ '0' ≤ c ∧ c ≤ '9' := by
  simp [Char.isDigit, Char.le_def]

theorem decimalValue_cons (c : Char) (ds : List Char) :
    decimalValue (c :: ds) = (c.toNat - '0'.toNat) * 10 ^ ds.length + decimalValue ds := by
  simp only [decimalValue, List.reverse_cons, List.map_append, Nat.ofDigits_append, List.map_cons,
    List.map_nil, Nat.ofDigits_singleton, List.length_map, List.length_reverse]
  ring

/-- Reading one more digit after the value `n` read so far. -/
theorem decimalValue_cons_shift (n : Nat) (c : Char) (ds : List Char) :
    n * 10 ^ (c :: ds).length + decimalValue (c :: ds) =
      (n * 10 + (c.toNat - '0'.toNat)) * 10 ^ ds.length + decimalValue ds := by
  rw [decimalValue_cons, List.length_cons]
  ring

theorem le_mul_pow_add (m k v : Nat) : m ≤ m * 10 ^ k + v :=
  le_trans (Nat.le_mul_of_pos_right _ (Nat.pos_pow_of_pos _ (by decide))) (Nat.le_add_right _ _)

/-- The digit loop from the value `n` read so far succeeds exactly on digits whose value,
after `n`'s, stays within `maxVal`: its range check on every prefix is a check on the whole,
as the value only grows, and past `cutoff` the product is already over `maxVal`. -/
theorem parseUintLoop_eq_ok_iff {maxVal : Nat} (fits : maxVal ≤ 2 ^ 64 - 1) (cs : List Char)
    {n : Nat} (start : n ≤ maxVal) (v : Nat) :
    parseUintLoop maxVal n cs = .ok v ↔
      (∀ c ∈ cs, c.isDigit) ∧ n * 10 ^ cs.length + decimalValue cs ≤ maxVal ∧
        v = n * 10 ^ cs.length + decimalValue cs := by
  induction cs generalizing n with
  | nil =>
      simp only [parseUintLoop, Except.ok.injEq, List.not_mem_nil, false_implies, implies_true,
        List.length_nil, pow_zero, Nat.mul_one, decimalValue, List.reverse_nil, List.map_nil,
        Nat.ofDigits_nil, Nat.add_zero, true_and, start]
      exact eq_comm
  | cons c rest ih =>
      have grows := le_mul_pow_add (n * 10 + (c.toNat - '0'.toNat)) rest.length (decimalValue rest)
      rw [decimalValue_cons_shift, List.forall_mem_cons, parseUintLoop]
      by_cases digit : '0' ≤ c ∧ c ≤ '9'
      · rw [if_pos digit]
        by_cases cut : n ≥ (2 ^ 64 - 1) / 10 + 1
        · rw [if_pos cut]
          refine iff_of_false (by rintro ⟨⟩) fun ⟨_, bound, _⟩ => ?_
          omega
        · rw [if_neg cut]
          dsimp only
          by_cases over : n * 10 + (c.toNat - '0'.toNat) > maxVal
          · rw [if_pos over]
            refine iff_of_false (by rintro ⟨⟩) fun ⟨_, bound, _⟩ => ?_
            omega
          · rw [if_neg over, ih (by omega)]
            simp [(isDigit_iff c).mpr digit]
      · rw [if_neg digit]
        simp [isDigit_iff, digit]

/-- `ParseUint(s, 10, bitSize)` succeeds exactly on a decimal text whose value fits in
`bitSize` bits, and returns that value. -/
theorem ParseUint_eq_ok_iff (s : String) {bitSize : Nat} (wide : bitSize ≤ 64) (v : Nat) :
    ParseUint s bitSize = .ok v ↔
      Decimal s.toList ∧ decimalValue s.toList ≤ 2 ^ bitSize - 1 ∧ v = decimalValue s.toList := by
  have fits : 2 ^ bitSize - 1 ≤ 2 ^ 64 - 1 :=
    Nat.sub_le_sub_right (Nat.pow_le_pow_right (by decide) wide) 1
  unfold ParseUint
  by_cases empty : s = ""
  · rw [if_pos empty]
    exact iff_of_false (by rintro ⟨⟩) fun ⟨⟨nonempty, _⟩, _⟩ => nonempty (by simp [empty])
  · have nonempty : s.data ≠ [] := fun nil => empty (String.ext nil)
    rw [if_neg empty, parseUintLoop_eq_ok_iff fits _ (Nat.zero_le _)]
    simp [Decimal, nonempty]

/-! ## fmt

`fmt`'s `%d` of a non-negative integer is `toString`'s decimal text, which `ParseUint` reads
back (`Trustydns.Go.decimal_toDigits`). -/

@[simp] theorem data_toString_nat (n : Nat) : (toString n).data = Nat.toDigits 10 n := rfl

theorem toString_of_nonneg {p : Int} (nonneg : 0 ≤ p) : toString p = toString p.toNat := by
  obtain ⟨n, rfl⟩ := Int.eq_ofNat_of_zero_le nonneg
  rfl

/-- Every character `Nat.toDigits` writes in base ten is a digit. -/
theorem isDigit_of_mem_toDigitsCore (fuel n : Nat) {ds : List Char}
    (digits : ∀ c ∈ ds, c.isDigit) : ∀ c ∈ Nat.toDigitsCore 10 fuel n ds, c.isDigit := by
  have digit : ∀ k < 10, (Nat.digitChar k).isDigit := by decide
  induction fuel generalizing n ds with
  | zero => exact digits
  | succ fuel ih =>
      have step : ∀ c ∈ Nat.digitChar (n % 10) :: ds, c.isDigit :=
        List.forall_mem_cons.mpr ⟨digit _ (Nat.mod_lt n (by decide)), digits⟩
      show ∀ c ∈ (if n / 10 = 0 then _ else Nat.toDigitsCore 10 fuel (n / 10) _), _
      split
      · exact step
      · exact ih _ step

/-- With enough fuel `Nat.toDigitsCore` puts the digits of `n` in front of `ds`. -/
theorem decimalValue_toDigitsCore (fuel n : Nat) (ds : List Char) (enough : n < fuel) :
    decimalValue (Nat.toDigitsCore 10 fuel n ds) = n * 10 ^ ds.length + decimalValue ds := by
  have digit : ∀ k < 10, (Nat.digitChar k).toNat - '0'.toNat = k := by decide
  induction fuel generalizing n ds with
  | zero => omega
  | succ fuel ih =>
      have last := digit (n % 10) (Nat.mod_lt n (by decide))
      show decimalValue (if n / 10 = 0 then _ else Nat.toDigitsCore 10 fuel (n / 10) _) = _
      split
      · rw [decimalValue_cons, last, Nat.mod_eq_of_lt (by omega)]
      · rw [ih _ _ (by omega), decimalValue_cons, last, List.length_cons]
        conv_rhs => rw [← Nat.div_add_mod n 10]
        ring

/-- The first digit `Nat.toDigits` writes for a positive number is not `0`. -/
theorem head_toDigitsCore (fuel : Nat) {n : Nat} (ds : List Char) (positive : 0 < n)
    (enough : n < fuel) : (Nat.toDigitsCore 10 fuel n ds).head? ≠ some '0' := by
  have digit : ∀ k < 10, 0 < k → Nat.digitChar k ≠ '0' := by decide
  induction fuel generalizing n ds with
  | zero => omega
  | succ fuel ih =>
      show (if n / 10 = 0 then _ else Nat.toDigitsCore 10 fuel (n / 10) _).head? ≠ _
      split
      · simpa using digit (n % 10) (Nat.mod_lt _ (by decide)) (by omega)
      · exact ih _ (by omega) (by omega)

/-- The decimal text of a natural number is a decimal text of that value. -/
theorem decimal_toDigits (p : Nat) :
    Decimal (Nat.toDigits 10 p) ∧ decimalValue (Nat.toDigits 10 p) = p := by
  refine ⟨⟨?_, isDigit_of_mem_toDigitsCore _ _ (by simp)⟩, ?_⟩
  · show (if p / 10 = 0 then _ else Nat.toDigitsCore 10 p (p / 10) [_]) ≠ []
    split
    · exact List.cons_ne_nil _ _
    · exact List.ne_nil_of_length_pos (by rw [Nat.toDigitsCore_lens_eq]; omega)
  · simpa using decimalValue_toDigitsCore (p + 1) p [] (by omega)

/-! ## strings -/

/-- `strings.Split` on a separator of one character, over the characters of the string. -/
def splitChars (sep : Char) : List Char → List (List Char)
  | [] => [[]]
  | c :: rest =>
      let fields := splitChars sep rest
      if c = sep then [] :: fields else (c :: fields.headD []) :: fields.tail

/-- `strings.Split(s, sep)` for a separator of one character. -/
def Split (s : String) (sep : Char) : List String :=
  (splitChars sep s.toList).map String.mk

example : Split "24/64" '/' = ["24", "64"] := by decide

/-- `splitChars` is `List.splitOn`. -/
theorem splitChars_eq_splitOn (sep : Char) (cs : List Char) :
    splitChars sep cs = cs.splitOn sep := by
  induction cs with
  | nil => rfl
  | cons c rest ih =>
      obtain ⟨first, more, split⟩ :=
        List.exists_cons_of_ne_nil (List.splitOnP_ne_nil (· == sep) rest)
      simp only [splitChars, List.splitOn, List.splitOnP_cons, beq_iff_eq, ih]
      split_ifs <;> simp [split]

/-- No field of a split holds the separator. -/
theorem not_mem_of_mem_splitChars {sep : Char} :
    ∀ {cs field : List Char}, field ∈ splitChars sep cs → sep ∉ field
  | [], field, member => by simp_all [splitChars]
  | c :: rest, field, member => by
      obtain ⟨first, more, split⟩ := List.exists_cons_of_ne_nil
        (show splitChars sep rest ≠ [] by
          rw [splitChars_eq_splitOn]
          exact List.splitOnP_ne_nil _ _)
      simp only [splitChars, split] at member
      split_ifs at member with same
      · rcases List.mem_cons.mp member with rfl | member
        · simp
        · exact not_mem_of_mem_splitChars (split ▸ member)
      · rcases List.mem_cons.mp member with rfl | member
        · simp only [List.headD_cons, List.mem_cons, not_or]
          exact ⟨Ne.symm same, not_mem_of_mem_splitChars (split ▸ List.mem_cons_self _ _)⟩
        · exact not_mem_of_mem_splitChars (split ▸ List.mem_cons_of_mem _ member)

/-- `strings.Split` gives two fields exactly for a text with one separator: the text before it
and the text after it. -/
theorem Split_eq_pair {s : String} {sep : Char} {a b : String} :
    Split s sep = [a, b] ↔
      s.toList = a.toList ++ sep :: b.toList ∧ sep ∉ a.toList ∧ sep ∉ b.toList := by
  constructor
  · intro split
    have fields : splitChars sep s.toList = [a.toList, b.toList] := by
      simpa [Split, Function.comp_def] using congrArg (List.map String.data) split
    refine ⟨?_, @not_mem_of_mem_splitChars sep s.toList _ (by rw [fields]; simp),
      @not_mem_of_mem_splitChars sep s.toList _ (by rw [fields]; simp)⟩
    have rejoined : [sep].intercalate (s.toList.splitOn sep) = s.toList :=
      List.intercalate_splitOn _ sep
    rw [← splitChars_eq_splitOn, fields] at rejoined
    simpa [List.intercalate] using rejoined.symm
  · rintro ⟨text, before, after⟩
    rw [Split, text, splitChars_eq_splitOn, List.splitOn,
      List.splitOnP_first _ _ (fun x member same => before (by rwa [beq_iff_eq.mp same] at member))
        sep (by simp),
      List.splitOnP_eq_single _ _ (fun x member same => after (by rwa [beq_iff_eq.mp same] at member))]
    rfl

/-- `strings.LastIndexByte(s, c)`: the position of the last `c`, `none` for Go's `-1`. -/
def LastIndexByte (s : List Char) (c : Char) : Option Nat :=
  (s.reverse.indexOf? c).map fun i => s.length - 1 - i

/-- The last `c` of a text is the one with no other after it. -/
theorem LastIndexByte_append_cons (s t : List Char) {c : Char} (absent : c ∉ t) :
    LastIndexByte (s ++ c :: t) c = some s.length := by
  have none : t.reverse.findIdx? (· == c) = none :=
    List.findIdx?_eq_none_iff.mpr fun x mem => by
      simpa using fun same : x = c => absent (same ▸ List.mem_reverse.mp mem)
  simp only [LastIndexByte, List.indexOf?, List.reverse_append, List.reverse_cons, List.append_assoc,
    List.singleton_append, List.findIdx?_append, none, List.findIdx?_cons, beq_self_eq_true,
    if_true, Option.none_or, Option.map_some', List.length_append, List.length_cons,
    List.length_reverse]
  congr 1
  omega

end Trustydns.Go
