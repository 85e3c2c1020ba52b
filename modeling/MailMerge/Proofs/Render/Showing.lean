/-
# What the faults of predicates show

The only fault of a predicate is that a number cannot be ordered against a text. It
quotes both, and what quotes would spell by its number never stands in it as it is.
So no such fault holds a character for private use.
-/

import MailMerge.Render.Evaluate
import MailMerge.Text.Quoted

namespace MailMerge

open Text (escapedRanges)

/-- **A text that shows:** none of its characters is one that quotes spell by its number. -/
def Text.Shows (text : List Char) : Prop := ∀ c ∈ text, escapedRanges.has c = false

namespace Text

theorem Shows.append {first second : List Char} (h : Shows first) (h' : Shows second) :
    Shows (first ++ second) := List.forall_mem_append.2 ⟨h, h'⟩

theorem Shows.cons {c : Char} {rest : List Char} (own : escapedRanges.has c = false) (h : Shows rest) :
    Shows (c :: rest) := List.forall_mem_cons.2 ⟨own, h⟩

/-- **Printable characters show.** -/
theorem shows_of_printable {c : Char} (from' : 32 ≤ c.toNat) (below : c.toNat < 127) :
    escapedRanges.has c = false := by
  have outside : ∀ range ∈ escapedRanges, range.2 < 32 ∨ 127 ≤ range.1 := by decide +kernel
  refine Bool.eq_false_iff.2 fun has => ?_
  obtain ⟨range, mem, least, most⟩ := Ranges.has_iff.1 has
  have := outside range mem
  omega

/-- A text of printable characters shows. -/
theorem shows_of_all {text : List Char}
    (h : text.all (fun c => decide (32 ≤ c.toNat ∧ c.toNat < 127)) = true) : Shows text := by
  intro c mem
  obtain ⟨least, most⟩ := of_decide_eq_true (List.all_eq_true.1 h c mem)
  exact shows_of_printable least most

theorem shows_digitChar (n : Nat) : escapedRanges.has (Nat.digitChar n) = false := by
  have small : ∀ n < 16, 32 ≤ (Nat.digitChar n).toNat ∧ (Nat.digitChar n).toNat < 127 := by decide
  rcases Nat.lt_or_ge n 16 with less | more
  · exact shows_of_printable (small n less).1 (small n less).2
  · rw [Nat.digitChar_eq_star.2 more]
    exact shows_of_printable (by decide) (by decide)

/-- **The digits of a number show.** -/
theorem shows_toDigits {base : Nat} (large : 1 < base) (n : Nat) : Shows (Nat.toDigits base n) := by
  induction n using Nat.strongRecOn with
  | ind n ih =>
    rw [Nat.toDigits_eq_if large]
    split
    · exact .cons (shows_digitChar n) fun _ mem => (List.not_mem_nil mem).elim
    · have less : n / base < n := Nat.div_lt_self (by omega) large
      exact (ih _ less).append (.cons (shows_digitChar _) fun _ mem => (List.not_mem_nil mem).elim)

/-- **A character shows inside quotes,** or is spelled by its number. -/
theorem shows_quoteChar (c : Char) : Shows (quoteChar c) := by
  unfold quoteChar
  iterate 6
    split
    · exact shows_of_all (by decide)
  split
  · rename_i printable
    simp only [Bool.and_eq_true, decide_eq_true_eq] at printable
    exact shows_of_all (by simpa using printable)
  · split
    · have digits : Shows (hexDigits c.toNat) := shows_toDigits (by omega) _
      exact .append (.append (shows_of_all (by decide)) digits) (shows_of_all (by decide))
    · rename_i raw
      exact .cons (Bool.eq_false_iff.2 raw) fun _ mem => (List.not_mem_nil mem).elim

/-- **A quoted text shows.** -/
theorem shows_quoted (s : String) : Shows (quoted s).toList := by
  rw [quoted, String.toList_ofList]
  refine .append (.cons (shows_of_printable (by decide) (by decide)) fun c mem => ?_)
    (shows_of_all (by decide))
  obtain ⟨source, -, found⟩ := List.mem_flatMap.1 mem
  exact shows_quoteChar source c found

end Text

namespace Decimal

open Text (Shows shows_of_all shows_toDigits)

/-- The digits of a shortest decimal show. -/
theorem shows_shortest (tie : Tie) (mantissa : Nat) (exponent : Int) :
    Shows (shortest tie mantissa exponent).digits := by
  have zero : Shows ['0'] := shows_of_all (by decide)
  unfold shortest
  split
  · exact zero
  · dsimp only
    cases found : (List.range 17).findSome? _ with
    | none => exact zero
    | some digits =>
      obtain ⟨step, -, grid⟩ := List.exists_of_findSome?_eq_some found
      obtain ⟨value, -, rfl⟩ := Option.map_eq_some_iff.1 grid
      intro c mem
      have sub := List.dropWhile_suffix (fun d => d == '0') |>.subset (List.mem_reverse.1 mem)
      exact shows_toDigits (by omega) value c (List.mem_reverse.1 sub)

/-- A number laid out positionally shows. -/
theorem Layout.shows_positional (layout : Layout) {digits : Digits} (h : Shows digits.digits) :
    Shows (layout.positional digits) := by
  have zeros : ∀ n, Shows (List.replicate n '0') := fun n c mem => by
    rw [List.eq_of_mem_replicate mem]
    exact Text.shows_of_printable (by decide) (by decide)
  unfold positional
  dsimp only
  split
  · exact ((shows_of_all (by decide)).append (zeros _)).append h
  · split
    · have whole := h.append (zeros (digits.point - ↑digits.digits.length).toNat)
      split
      · split
        · exact whole.append (shows_of_all (by decide))
        · exact whole
      · exact whole
    · refine .append (fun c mem => h c (List.mem_of_mem_take mem)) (.cons ?_ fun c mem => h c (List.mem_of_mem_drop mem))
      exact Text.shows_of_printable (by decide) (by decide)

/-- **The output of a double shows.** -/
theorem shows_output (f : Float) : Shows (Layout.output.text f).toList := by
  unfold Layout.text
  split
  · exact shows_of_all (by decide)
  · split <;> exact shows_of_all (by decide)
  · rename_i negative mantissa exponent _
    have positional : ∀ digits, Layout.output.unsigned digits = Layout.output.positional digits :=
      fun _ => rfl
    have body : Shows (Layout.output.unsigned (shortest Layout.output.tie mantissa exponent)) :=
      positional _ ▸ Layout.shows_positional _ (shows_shortest _ mantissa exponent)
    dsimp only
    rw [String.toList_ofList]
    split
    · exact .cons (Text.shows_of_printable (by decide) (by decide)) body
    · exact body

end Decimal

namespace Value

open Text (Shows shows_of_all shows_toDigits)

/-- **What a fault quotes of a number shows.** -/
theorem shows_inspect_int (value : Int64) : Shows (inspect (.int value)).toList := by
  change Shows (Int.repr value.toInt).toList
  have digits : ∀ n : Nat, Shows (Nat.repr n).toList := fun n => by
    rw [Nat.toList_repr]
    exact shows_toDigits (by omega) n
  cases value.toInt with
  | ofNat n => exact digits n
  | negSucc n =>
    rw [Int.repr, String.toList_append]
    exact .append (shows_of_all (by decide)) (digits (n + 1))

theorem shows_inspect_float (value : Float) : Shows (inspect (.float value)).toList :=
  Decimal.shows_output value

theorem shows_inspect_text (s : String) : Shows (inspect (.text s)).toList := Text.shows_quoted s

end Value

namespace Render

open Text (Shows shows_of_all)
open Markup (Comparison Condition)

/-- A fault that quotes two texts that show shows. -/
theorem shows_comparison {left right : String} (h : Shows left.toList) (h' : Shows right.toList) :
    Shows (Fault.comparison left right).message.toList := by
  have opening : Shows "comparison of ".toList := shows_of_all (by decide +kernel)
  have middle : Shows " with ".toList := shows_of_all (by decide +kernel)
  have closing : Shows " failed".toList := shows_of_all (by decide +kernel)
  change Shows ("comparison of " ++ left ++ " with " ++ right ++ " failed").toList
  rw [String.toList_append, String.toList_append, String.toList_append, String.toList_append]
  exact (((opening.append h).append middle).append h').append closing

/-- **The fault of two values that cannot be ordered shows.** -/
theorem shows_order {left right : Value} {fault : Fault} (h : order left right = .error fault) :
    Shows fault.message.toList := by
  unfold order at h
  dsimp only at h
  split at h
  all_goals cases h
  · exact shows_comparison (Value.shows_inspect_int _) (Value.shows_inspect_text _)
  · exact shows_comparison (Value.shows_inspect_float _) (Value.shows_inspect_text _)
  · exact shows_comparison (Value.shows_inspect_text _) (Value.shows_inspect_int _)
  · exact shows_comparison (Value.shows_inspect_text _) (Value.shows_inspect_float _)

theorem shows_compareValues {left right : Value} {operator : Markup.Operator} {fault : Fault}
    (h : compareValues left operator right = .error fault) : Shows fault.message.toList := by
  have ordered : ∀ {found : Except Fault (Option Ordering)} {admitted : Option Ordering → Bool},
      found.map admitted = .error fault → found = .error fault := by
    intro found admitted same
    cases found with
    | error other => exact congrArg _ (Except.error.inj same)
    | ok _ => cases same
  cases operator with
  | eq => cases h
  | ne => cases h
  | contains => cases h
  | _ => exact shows_order (ordered h)

theorem shows_evalComparison {env : Env} {comparison : Comparison} {fault : Fault}
    (h : evalComparison env comparison = .error fault) : Shows fault.message.toList := by
  unfold evalComparison at h
  dsimp only at h
  split at h
  · cases h
  · exact shows_compareValues h

/-- **The fault of a predicate shows.** -/
theorem shows_evalCondition {env : Env} {condition : Condition} {fault : Fault}
    (h : evalCondition env condition = .error fault) : Shows fault.message.toList := by
  induction condition with
  | last comparison => exact shows_evalComparison h
  | join comparison joint rest ih =>
    unfold evalCondition at h
    cases own : evalComparison env comparison with
    | error first =>
      rw [own] at h
      exact shows_evalComparison (own.trans h)
    | ok holds =>
      rw [own] at h
      cases holds <;> cases joint
      · cases h
      · exact ih h
      · exact ih h
      · cases h

end Render

end MailMerge
