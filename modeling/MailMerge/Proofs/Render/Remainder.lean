/-
# The remainder of division

The quotient of two whole numbers is rounded towards minus infinity, so their remainder has the
sign of the divisor and is smaller than it. The remainder always fits into 64 bits. It is computed
as what is left after taking away the divisor as often as the quotient says, and what is taken
away need not fit:

| input | divisor | quotient | taken away | remainder |
| --- | --- | --- | --- | --- |
| the least number | -1 | one more than the greatest number | | 0 |
| the least number | 3 | a third of it, rounded down | one less than the least number | 1 |

The remainder is given exactly where the quotient and what is taken away fit, and everywhere else
there is an overflow.
-/

import MailMerge.Proofs.Render.Exactness

namespace MailMerge

namespace Render

open Decimal (word? word?_eq_some_iff word?_eq_none_iff)

/-! ### What is left over -/

/-- **The remainder lies between zero and the divisor,** on the divisor's side of zero. -/
theorem fmod_cases (a : Int) {b : Int} (nonzero : b ≠ 0) :
    (0 < b ∧ 0 ≤ a.fmod b ∧ a.fmod b < b) ∨ (b < 0 ∧ b < a.fmod b ∧ a.fmod b ≤ 0) := by
  rcases Int.lt_or_gt_of_ne nonzero with negative | positive
  · right
    have opposite : 0 < -b := Int.neg_pos_of_neg negative
    have nonneg := Int.fmod_nonneg_of_pos (-a) opposite
    have less := Int.fmod_lt_of_pos (-a) opposite
    rw [Int.neg_fmod_neg] at nonneg less
    omega
  · exact .inl ⟨positive, Int.fmod_nonneg_of_pos a positive, Int.fmod_lt_of_pos a positive⟩

/-- **The remainder of two words** is given where the quotient and what is taken away fit. -/
theorem floorRemainder?_eq {a b r : Int64} (remainder : r.toInt = a.toInt.fmod b.toInt) :
    floorRemainder? a b =
      if floorQuotient? a b = none ∨ word? (a.toInt - r.toInt) = none then none else some r := by
  have taken : b.toInt * a.toInt.fdiv b.toInt = a.toInt - r.toInt := by
    rw [remainder, Int.fmod_def, Int.sub_sub_self]
  unfold floorRemainder?
  cases divided : floorQuotient? a b with
  | none => rfl
  | some quotient =>
    have quotients := toInt_of_floorQuotient? divided
    cases product : word? (a.toInt - r.toInt) with
    | none => simp [quotients, taken, product]
    | some multiple =>
      have left : word? (a.toInt - multiple.toInt) = some r := by
        rw [word?_eq_some_iff, word?_eq_some_iff.1 product, Int.sub_sub_self]
      simp [quotients, taken, product, left]

/-! ### The filter -/

/-- **The remainder of two words fits into a word.** -/
theorem exists_remainder (a : Int64) {b : Int64} (nonzero : b.toInt ≠ 0) :
    ∃ r : Int64, r.toInt = a.toInt.fmod b.toInt := by
  have low := Int64.le_toInt b
  have high := Int64.toInt_lt b
  refine ⟨Int64.ofInt (a.toInt.fmod b.toInt), Int64.toInt_ofInt_of_le ?_ ?_⟩ <;>
    rcases fmod_cases a.toInt nonzero with range | range <;> omega

/-- **The remainder filter** gives the remainder of the quotient rounded down, which has the sign
of the divisor and is smaller, unless the input is so near to an end of the range that taking away
the divisor as often as it goes leaves it, or the input is the least number and the divisor minus
one. There it reports an overflow. -/
theorem modulo_floors (a b : Int64) (nonzero : b ≠ 0) :
    ∃ r : Int64, r.toInt = a.toInt - b.toInt * ⌊(a.toInt : ℚ) / b.toInt⌋ ∧
      |r.toInt| < |b.toInt| ∧ (r.toInt = 0 ∨ r.toInt.sign = b.toInt.sign) ∧
      standardFilters.apply "modulo" (.int a) [.int b] =
        if a = Int64.minValue ∧ b = -1 ∨ a.toInt < Int64.minValue.toInt + r.toInt ∨
            Int64.maxValue.toInt + r.toInt < a.toInt then
          .error (.filter "modulo" "integer overflow")
        else .ok (.int r) := by
  have divisor : b.toInt ≠ 0 := fun zero => nonzero (Int64.toInt_inj.1 zero)
  obtain ⟨r, remainder⟩ := exists_remainder a divisor
  have range := fmod_cases a.toInt divisor
  rw [← remainder] at range
  refine ⟨r, ?_, ?_, ?_, ?_⟩
  · rw [← fdiv_eq_floor, remainder, Int.fmod_def]
  · rcases range with ⟨positive, nonneg, less⟩ | ⟨negative, greater, nonpos⟩
    · rwa [abs_of_nonneg nonneg, abs_of_pos positive]
    · rw [abs_of_nonpos nonpos, abs_of_neg negative]
      exact Int.neg_lt_neg greater
  · rcases range with ⟨positive, nonneg, -⟩ | ⟨negative, -, nonpos⟩
    · rcases Int.lt_or_eq_of_le nonneg with inside | zero
      · exact .inr (by rw [Int.sign_eq_one_of_pos inside, Int.sign_eq_one_of_pos positive])
      · exact .inl zero.symm
    · rcases Int.lt_or_eq_of_le nonpos with inside | zero
      · exact .inr (by rw [Int.sign_eq_neg_one_of_neg inside, Int.sign_eq_neg_one_of_neg negative])
      · exact .inl zero
  · have applied : standardFilters.apply "modulo" (.int a) [.int b] =
        dividing "modulo" floorRemainder? a b := rfl
    have leaves : floorQuotient? a b = none ∨ word? (a.toInt - r.toInt) = none ↔
        a = Int64.minValue ∧ b = -1 ∨ a.toInt < Int64.minValue.toInt + r.toInt ∨
          Int64.maxValue.toInt + r.toInt < a.toInt := by
      rw [floorQuotient?_eq_none_iff divisor, word?_eq_none_iff, sub_lt_iff_lt_add,
        lt_sub_iff_add_lt]
    rw [applied, dividing, if_neg nonzero, floorRemainder?_eq remainder]
    by_cases overflow : floorQuotient? a b = none ∨ word? (a.toInt - r.toInt) = none
    · rw [if_pos overflow, if_pos (leaves.1 overflow)]
      rfl
    · rw [if_neg overflow, if_neg fun range => overflow (leaves.2 range)]
      rfl

/-- The remainder of minus seven and two is one, and so is that of the least number and three,
which is an overflow all the same. -/
theorem modulo_floors_least :
    ((2 : Int64) ≠ 0 ∧ standardFilters.apply "modulo" (.int (-7)) [.int 2] = .ok (.int 1)) ∧
      (3 : Int64) ≠ 0 ∧ Int64.minValue.toInt - 3 * ⌊(Int64.minValue.toInt : ℚ) / 3⌋ = 1 ∧
        standardFilters.apply "modulo" (.int Int64.minValue) [.int 3] =
          .error (.filter "modulo" "integer overflow") := by
  have two : (2 : Int64) ≠ 0 := by decide
  have three : (3 : Int64) ≠ 0 := by decide
  obtain ⟨small, exactly, -, -, inside⟩ := modulo_floors (-7) 2 two
  obtain ⟨large, exactly', -, -, beyond⟩ := modulo_floors Int64.minValue 3 three
  rw [← fdiv_eq_floor] at exactly exactly'
  obtain rfl : small = 1 := Int64.toInt_inj.1 (exactly.trans (by decide))
  obtain rfl : large = 1 := Int64.toInt_inj.1 (exactly'.trans (by decide))
  refine ⟨⟨two, inside.trans (if_neg (by decide))⟩, three, ?_, beyond.trans (if_pos (by decide))⟩
  have floored := fdiv_eq_floor Int64.minValue.toInt 3
  rw [Int.cast_ofNat] at floored
  rw [← floored]
  decide

end Render
end MailMerge
