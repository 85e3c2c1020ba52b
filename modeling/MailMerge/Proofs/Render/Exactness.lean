/-
# Whole-number arithmetic is exact

Whatever the filters take for a whole number, their sum, difference, product and quotient is the
one of the integers, rounded down for the quotient, or it is refused because 64 bits do not hold
it. Nothing wraps.

| what is piped in | number |
| --- | --- |
| a whole number | itself |
| `nil` | 0 |
| a text that holds a whole number | that number |
| a text that holds no number | 0 |

The quotient is taken in steps: Euclid's quotient, then Euclid's remainder, then one less where
the divisor is negative and the remainder is not zero. Only the first of these steps can fail, and
it does only for the least number and minus one (`euclidQuotient?_eq_none_iff`): the quotient is at
most as far from zero as the input, and as far only for a divisor of one or minus one, where
nothing is left over.
-/

import MailMerge.Render.Filter
import Mathlib.Data.Rat.Floor

namespace MailMerge

namespace Decimal

theorem word?_eq_some_iff {n : Int} {word : Int64} : word? n = some word ↔ word.toInt = n := by
  unfold word?
  constructor
  · intro h
    split at h
    · rename_i fits
      obtain rfl := Option.some.inj h
      rw [Int64.toInt_minValue, Int64.toInt_maxValue] at fits
      exact Int64.toInt_ofInt_of_le fits.1 (by omega)
    · cases h
  · rintro rfl
    rw [if_pos ⟨Int64.minValue_le_toInt word, Int64.toInt_le word⟩, Int64.ofInt_toInt]

/-- **What does not fit into 64 bits** lies beyond one of their ends. -/
theorem word?_eq_none_iff {n : Int} :
    word? n = none ↔ n < Int64.minValue.toInt ∨ Int64.maxValue.toInt < n := by
  unfold word?
  split
  · exact iff_of_false (fun same => nomatch same) (by omega)
  · exact iff_of_true rfl (by omega)

/-- A word is there for what lies within both ends. -/
theorem exists_word {n : Int} (low : -2 ^ 63 ≤ n) (high : n < 2 ^ 63) :
    ∃ word, word? n = some word ∧ word.toInt = n :=
  have same := Int64.toInt_ofInt_of_le low high
  ⟨Int64.ofInt n, word?_eq_some_iff.2 same, same⟩

end Decimal

namespace Render

open Decimal (word? word?_eq_some_iff word?_eq_none_iff exists_word)

/-! ### Rounding down -/

theorem fdiv_eq_floor (a b : Int) : a.fdiv b = ⌊(a : ℚ) / b⌋ := by
  have positive : ∀ (a b : Int), 0 ≤ b → a.fdiv b = ⌊(a : ℚ) / b⌋ := by
    intro a b nonneg
    lift b to ℕ using nonneg
    rw [Int.fdiv_eq_ediv_of_nonneg a (Int.natCast_nonneg b), Int.cast_natCast,
      Rat.floor_intCast_div_natCast]
  rcases Int.le_total 0 b with nonneg | nonpos
  · exact positive a b nonneg
  · have mirrored := positive (-a) (-b) (Int.neg_nonneg_of_nonpos nonpos)
    rwa [Int.neg_fdiv_neg, Int.cast_neg, Int.cast_neg, neg_div_neg_eq] at mirrored

section

variable {a b quotient remainder : Int64}

theorem toInt_ne_zero (nonzero : b ≠ 0) : b.toInt ≠ 0 := fun zero => nonzero (Int64.toInt_inj.1 zero)

theorem toInt_of_euclidQuotient? (h : euclidQuotient? a b = some quotient) :
    b ≠ 0 ∧ quotient.toInt = a.toInt / b.toInt := by
  unfold euclidQuotient? at h
  split at h
  · cases h
  · rename_i nonzero
    exact ⟨nonzero, word?_eq_some_iff.1 h⟩

/-- **Euclid's quotient fits,** but for the least number and minus one. -/
theorem euclidQuotient?_eq_none_iff (nonzero : b ≠ 0) :
    euclidQuotient? a b = none ↔ a = Int64.minValue ∧ b = -1 := by
  have division := Int.mul_ediv_add_emod a.toInt b.toInt
  have nonneg := Int.emod_nonneg a.toInt (toInt_ne_zero nonzero)
  have less := Int.emod_lt a.toInt (toInt_ne_zero nonzero)
  have near := Int.natAbs_ediv_le_natAbs a.toInt b.toInt
  have low := Int64.le_toInt a
  have high := Int64.toInt_lt a
  have lowest := Int64.le_toInt b
  have minusOne : (-1 : Int64).toInt = -1 := rfl
  rw [euclidQuotient?, if_neg nonzero, word?_eq_none_iff, ← Int64.toInt_inj, ← Int64.toInt_inj,
    minusOne, Int64.toInt_minValue, Int64.toInt_maxValue]
  generalize a.toInt = input, b.toInt = divisor at *
  generalize input / divisor = quotient, input % divisor = remainder at *
  constructor
  · rintro (below | above)
    · omega
    · obtain rfl : quotient = 2 ^ 63 := by omega
      omega
  · rintro ⟨rfl, rfl⟩
    omega

/-- **Euclid's remainder can be taken** wherever there is a quotient. -/
theorem exists_euclidRemainder (h : euclidQuotient? a b = some quotient) :
    ∃ remainder, euclidRemainder? a b = some remainder ∧ remainder.toInt = a.toInt % b.toInt := by
  obtain ⟨nonzero, -⟩ := toInt_of_euclidQuotient? h
  have divisor := toInt_ne_zero nonzero
  have nonneg := Int.emod_nonneg a.toInt divisor
  have less := Int.emod_lt a.toInt divisor
  have low := Int64.le_toInt b
  have high := Int64.toInt_lt b
  have possible : ¬(b = 0 ∨ a = Int64.minValue ∧ b = -1) := by
    rintro (zero | beyond)
    · exact nonzero zero
    · rw [(euclidQuotient?_eq_none_iff nonzero).2 beyond] at h
      cases h
  rw [euclidRemainder?, if_neg possible]
  exact exists_word (by omega) (by omega)

/-- **One less than the quotient fits** where the quotient is to be corrected. -/
theorem exists_corrected (h : euclidQuotient? a b = some quotient) (negative : b < 0) :
    ∃ word, word? (quotient.toInt - 1) = some word ∧ word.toInt = quotient.toInt - 1 := by
  obtain ⟨nonzero, same⟩ := toInt_of_euclidQuotient? h
  have division := Int.mul_ediv_add_emod a.toInt b.toInt
  have nonneg := Int.emod_nonneg a.toInt (toInt_ne_zero nonzero)
  have near := Int.natAbs_ediv_le_natAbs a.toInt b.toInt
  have low := Int64.le_toInt a
  have high := Int64.toInt_lt a
  have highest := Int64.toInt_lt quotient
  rw [Int64.lt_iff_toInt_lt, Int64.toInt_zero] at negative
  refine exists_word ?_ (by omega)
  rw [same]
  generalize a.toInt = input, b.toInt = divisor at *
  generalize input / divisor = quotient, input % divisor = remainder at *
  refine Int.not_lt.1 fun below => ?_
  obtain rfl : quotient = -2 ^ 63 := by omega
  omega

/-- **Rounding down in steps** is rounding down. -/
theorem floorQuotient?_eq (nonzero : b ≠ 0) :
    floorQuotient? a b = word? (a.toInt.fdiv b.toInt) := by
  unfold floorQuotient?
  cases divided : euclidQuotient? a b with
  | none =>
    obtain ⟨rfl, rfl⟩ := (euclidQuotient?_eq_none_iff nonzero).1 divided
    decide
  | some quotient =>
    obtain ⟨-, quotients⟩ := toInt_of_euclidQuotient? divided
    obtain ⟨remainder, left, remainders⟩ := exists_euclidRemainder divided
    have exactly : b.toInt ∣ a.toInt ↔ remainder = 0 := by
      rw [Int.dvd_iff_emod_eq_zero, ← remainders, ← Int64.toInt_inj, Int64.toInt_zero]
    have sign : 0 ≤ b.toInt ↔ ¬b < 0 := by
      rw [Int64.lt_iff_toInt_lt, Int64.toInt_zero, Int.not_lt]
    simp only [Option.bind_eq_bind, Option.bind_some, left]
    simp only [Int.fdiv_eq_ediv, exactly, sign, ← quotients]
    by_cases corrected : b < 0 ∧ remainder ≠ 0
    · rw [if_pos corrected, if_neg (by tauto)]
    · rw [if_neg corrected, if_pos (by tauto), Int.sub_zero]
      exact (word?_eq_some_iff.2 rfl).symm

theorem toInt_of_floorQuotient? (h : floorQuotient? a b = some quotient) :
    quotient.toInt = a.toInt.fdiv b.toInt := by
  have nonzero : b ≠ 0 := by
    rintro rfl
    cases h
  rw [floorQuotient?_eq nonzero] at h
  exact word?_eq_some_iff.1 h

/-- **Of two words only the least and minus one** have a quotient that does not fit. -/
theorem floorQuotient?_eq_none_iff (divisor : b.toInt ≠ 0) :
    floorQuotient? a b = none ↔ a = Int64.minValue ∧ b = -1 := by
  have nonzero : b ≠ 0 := fun zero => divisor (by rw [zero]; rfl)
  rw [← euclidQuotient?_eq_none_iff nonzero, floorQuotient?]
  cases divided : euclidQuotient? a b with
  | none => exact iff_of_true rfl rfl
  | some quotient =>
    refine iff_of_false ?_ fun same => nomatch same
    obtain ⟨remainder, left, -⟩ := exists_euclidRemainder divided
    simp only [Option.bind_eq_bind, Option.bind_some, left]
    split
    · rename_i corrected
      obtain ⟨word, fits, -⟩ := exists_corrected divided corrected.1
      rw [fits]
      exact fun same => nomatch same
    · exact fun same => nomatch same

end

/-! ### Operands -/

/-- **What a filter takes for a whole number.** -/
inductive ReadsWhole : Value → Int64 → Prop
  | int (word : Int64) : ReadsWhole (.int word) word
  | nil : ReadsWhole .nil 0
  | numeral {s : String} {word : Int64}
      (read : Decimal.readInt? (Text.trimChars s.toList) = some word) : ReadsWhole (.text s) word
  | noNumber {s : String} (noInt : Decimal.readInt? (Text.trimChars s.toList) = none)
      (noFloat : Decimal.readFloat? (Text.trimChars s.toList) = none) : ReadsWhole (.text s) 0

/-- **The whole operands** are the values that are taken for a whole number. -/
theorem operand_eq_int_iff {filter : String} {value : Value} {word : Int64} :
    operand filter value = .ok (.int word) ↔ ReadsWhole value word := by
  constructor
  · intro h
    unfold operand at h
    split at h
    · cases h
      exact .int word
    · cases h
    · cases h
      exact .nil
    · unfold Operand.ofText at h
      dsimp only at h
      split at h
      · rename_i read
        cases h
        exact .numeral read
      · cases h
      · rename_i noInt noFloat
        cases h
        exact .noNumber noInt noFloat
    · cases h
  · intro reads
    cases reads with
    | int word => rfl
    | nil => rfl
    | numeral read => simp only [operand, Operand.ofText, read]
    | noNumber noInt noFloat => simp only [operand, Operand.ofText, noInt, noFloat]

/-! ### The filters -/

/-- **An exact result:** the whole number, or the overflow if 64 bits do not hold it. -/
inductive Exact (filter : String) (n : Int) : Except Fault Value → Prop
  | held {word : Int64} (same : word.toInt = n) : Exact filter n (.ok (.int word))
  | beyond (outside : n < -2 ^ 63 ∨ 2 ^ 63 ≤ n) :
      Exact filter n (.error (.filter filter "integer overflow"))

section

variable {filter : String} {n : Int} {result : Except Fault Value} {input argument : Value}
  {a b : Int64}

theorem Exact.eq_ok (h : Exact filter n result) {word : Int64} (same : word.toInt = n) :
    result = .ok (.int word) := by
  cases h with
  | held other => rw [Int64.toInt_inj.1 (other.trans same.symm)]
  | beyond outside =>
    have low := Int64.le_toInt word
    have high := Int64.toInt_lt word
    omega

theorem Exact.eq_overflow (h : Exact filter n result) (outside : n < -2 ^ 63 ∨ 2 ^ 63 ≤ n) :
    result = .error (.filter filter "integer overflow") := by
  cases h with
  | @held word same =>
    have low := Int64.le_toInt word
    have high := Int64.toInt_lt word
    omega
  | beyond _ => rfl

theorem exact_wholeResult (filter : String) (n : Int) : Exact filter n (wholeResult filter (word? n)) := by
  cases fits : word? n with
  | some word => exact .held (word?_eq_some_iff.1 fits)
  | none =>
    rw [word?_eq_none_iff, Int64.toInt_minValue, Int64.toInt_maxValue] at fits
    exact .beyond (by omega)

/-- **Whole operands** are handed on to the arithmetic of whole numbers. -/
theorem arithmetic_whole {onInts : Int64 → Int64 → Except Fault Value} {onFloats : Float → Float → Float}
    (left : ReadsWhole input a) (right : ReadsWhole argument b) (rest : List Value) :
    arithmetic filter onInts onFloats input (argument :: rest) = onInts a b := by
  have first : operand filter input = .ok (.int a) := operand_eq_int_iff.2 left
  have second : operand filter argument = .ok (.int b) := operand_eq_int_iff.2 right
  unfold arithmetic operands Render.argument
  rw [first]
  simp only [bind, Except.bind, second, pure, Except.pure]

/-- **Division in steps** fails in its first step or not at all. -/
structure DividesSafely (a b : Int64) : Prop where
  quotient : euclidQuotient? a b = none ↔ a = Int64.minValue ∧ b = -1
  remainder : (euclidQuotient? a b).isSome → (euclidRemainder? a b).isSome
  correction : ∀ quotient ∈ euclidQuotient? a b, b < 0 → (word? (quotient.toInt - 1)).isSome

theorem dividesSafely (nonzero : b ≠ 0) : DividesSafely a b where
  quotient := euclidQuotient?_eq_none_iff nonzero
  remainder there := by
    obtain ⟨quotient, divided⟩ := Option.isSome_iff_exists.1 there
    obtain ⟨remainder, left, -⟩ := exists_euclidRemainder divided
    exact Option.isSome_of_eq_some left
  correction quotient divided negative := by
    obtain ⟨word, fits, -⟩ := exists_corrected divided negative
    exact Option.isSome_of_eq_some fits

/-- **The whole-number filters are exact.** Sum, difference and product are those of the integers,
and the quotient is rounded down, or 64 bits do not hold them and there is an overflow. A divisor
of zero is refused, and division takes no step that cannot be taken. -/
theorem wholeFilters_exact (left : ReadsWhole input a) (right : ReadsWhole argument b)
    (rest : List Value) :
    Exact "plus" (a.toInt + b.toInt) (standardFilters.apply "plus" input (argument :: rest)) ∧
      Exact "minus" (a.toInt - b.toInt) (standardFilters.apply "minus" input (argument :: rest)) ∧
      Exact "times" (a.toInt * b.toInt) (standardFilters.apply "times" input (argument :: rest)) ∧
      (b = 0 → standardFilters.apply "divided_by" input (argument :: rest) =
        .error (.filter "divided_by" "divided by 0")) ∧
      (b ≠ 0 → Exact "divided_by" ⌊(a.toInt : ℚ) / b.toInt⌋
          (standardFilters.apply "divided_by" input (argument :: rest)) ∧ DividesSafely a b) := by
  have sum : standardFilters.apply "plus" input (argument :: rest) =
      wholeResult "plus" (word? (a.toInt + b.toInt)) := arithmetic_whole left right rest
  have difference : standardFilters.apply "minus" input (argument :: rest) =
      wholeResult "minus" (word? (a.toInt - b.toInt)) := arithmetic_whole left right rest
  have product : standardFilters.apply "times" input (argument :: rest) =
      wholeResult "times" (word? (a.toInt * b.toInt)) := arithmetic_whole left right rest
  have quotient : standardFilters.apply "divided_by" input (argument :: rest) =
      dividing "divided_by" floorQuotient? a b := arithmetic_whole left right rest
  rw [sum, difference, product, quotient, dividing]
  refine ⟨exact_wholeResult _ _, exact_wholeResult _ _, exact_wholeResult _ _, fun zero => if_pos zero,
    fun nonzero => ⟨?_, dividesSafely nonzero⟩⟩
  rw [if_neg nonzero, floorQuotient?_eq nonzero, fdiv_eq_floor]
  exact exact_wholeResult _ _

end

/-- A text with minus seven in it, halved, comes to minus four, and the least number divided by
minus one is an overflow. -/
theorem wholeFilters_exact_text :
    (ReadsWhole (.text " -7 ") (-7) ∧ ReadsWhole (.int 2) 2 ∧
      standardFilters.apply "divided_by" (.text " -7 ") [.int 2] = .ok (.int (-4)) ∧
      standardFilters.apply "times" (.text " -7 ") [.int 2] = .ok (.int (-14))) ∧
    ReadsWhole (.int Int64.minValue) Int64.minValue ∧ ReadsWhole (.int (-1)) (-1) ∧
      standardFilters.apply "divided_by" (.int Int64.minValue) [.int (-1)] =
        .error (.filter "divided_by" "integer overflow") ∧
      standardFilters.apply "plus" (.int Int64.minValue) [.int (-1)] =
        .error (.filter "plus" "integer overflow") := by
  have seven : ReadsWhole (.text " -7 ") (-7) := .numeral (by decide +kernel)
  obtain ⟨-, -, product, -, quotient⟩ := wholeFilters_exact seven (.int 2) []
  obtain ⟨sum, -, -, -, beyond⟩ := wholeFilters_exact (.int Int64.minValue) (.int (-1)) []
  obtain ⟨quotient, -⟩ := quotient (by decide)
  obtain ⟨beyond, -⟩ := beyond (by decide)
  rw [← fdiv_eq_floor] at quotient beyond
  exact ⟨⟨seven, .int 2, quotient.eq_ok (by decide), product.eq_ok (by decide)⟩, .int _, .int _,
    beyond.eq_overflow (by decide), sum.eq_overflow (by decide)⟩

end Render
end MailMerge
