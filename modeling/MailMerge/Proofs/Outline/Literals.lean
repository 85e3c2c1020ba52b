/-
# Joining literals

Fragments are added one by one, and text that follows text is joined to it. So it
does not matter whether fragments are added to others directly or are joined among
themselves first, and a choice keeps what stands before it apart from what stands
after it.
-/

import Mathlib.Data.List.Chain
import MailMerge.Outline.Basic

namespace MailMerge
namespace Outline

/-- The fragment is text. -/
def Fragment.isLiteral : Fragment → Bool
  | .literal _ => true
  | _ => false

/-- **Fragments with text joined to text.** -/
def joinLiterals (fragments : List Fragment) : List Fragment := fragments.foldl pushFragment []

/-- What stands before other fragments is not touched. -/
theorem pushFragment_cons {rest : List Fragment} (nonempty : rest ≠ []) (first fragment : Fragment) :
    pushFragment (first :: rest) fragment = first :: pushFragment rest fragment := by
  cases rest with
  | nil => exact absurd rfl nonempty
  | cons second rest => rw [pushFragment]; simp

theorem pushFragment_ne_nil (fragments : List Fragment) (fragment : Fragment) :
    pushFragment fragments fragment ≠ [] := by
  fun_cases pushFragment fragments fragment <;> simp

/-- A fragment that is no text is added as it is. -/
theorem pushFragment_of_not_literal {fragment : Fragment} (h : fragment.isLiteral = false)
    (fragments : List Fragment) : pushFragment fragments fragment = fragments ++ [fragment] := by
  fun_induction pushFragment fragments fragment with
  | case1 => rfl
  | case2 => simp [Fragment.isLiteral] at h
  | case3 first rest fragment _ ih => rw [ih h, List.cons_append]

/-- Nothing is joined to a fragment that is no text. -/
theorem pushFragment_after {fragment : Fragment} (h : fragment.isLiteral = false)
    (before after : List Fragment) (more : Fragment) :
    pushFragment (before ++ fragment :: after) more = before ++ fragment :: pushFragment after more := by
  induction before with
  | nil =>
    cases fragment with
    | literal text => simp [Fragment.isLiteral] at h
    | _ => rw [List.nil_append, List.nil_append, pushFragment]; simp
  | cons first rest ih => rw [List.cons_append, pushFragment_cons (by simp), ih, List.cons_append]

/-- Text may be added in one piece or in two. -/
theorem pushFragment_literal_append (fragments : List Fragment) (text more : String) :
    pushFragment (pushFragment fragments (.literal text)) (.literal more) =
      pushFragment fragments (.literal (text ++ more)) := by
  induction fragments with
  | nil => rfl
  | cons first rest ih =>
    cases rest with
    | nil =>
      cases first with
      | literal before => simp [pushFragment, String.append_assoc]
      | _ => rfl
    | cons second rest =>
      have apart : second :: rest ≠ [] := by simp
      rw [pushFragment_cons apart, pushFragment_cons (pushFragment_ne_nil _ _), ih,
        pushFragment_cons apart]

/-- A fragment may be added before or after the others are. -/
theorem foldl_pushFragment_push (fragments : List Fragment) (fragment : Fragment)
    (before : List Fragment) :
    (pushFragment fragments fragment).foldl pushFragment before =
      pushFragment (fragments.foldl pushFragment before) fragment := by
  fun_induction pushFragment fragments fragment generalizing before with
  | case1 => rfl
  | case2 text more => exact (pushFragment_literal_append before text more).symm
  | case3 first rest fragment _ ih => exact ih (pushFragment before first)

theorem joinLiterals_concat (fragments : List Fragment) (fragment : Fragment) :
    joinLiterals (fragments ++ [fragment]) = pushFragment (joinLiterals fragments) fragment := by
  rw [joinLiterals, List.foldl_append]
  rfl

/-- **Fragments joined among themselves are added like the fragments themselves.** -/
theorem foldl_pushFragment_joinLiterals (fragments before : List Fragment) :
    (joinLiterals fragments).foldl pushFragment (joinLiterals before) =
      joinLiterals (before ++ fragments) := by
  have general : ∀ first rest : List Fragment,
      (rest.foldl pushFragment first).foldl pushFragment (joinLiterals before) =
        rest.foldl pushFragment (first.foldl pushFragment (joinLiterals before)) := by
    intro first rest
    induction rest generalizing first with
    | nil => rfl
    | cons fragment rest ih => rw [List.foldl_cons, ih, foldl_pushFragment_push, List.foldl_cons]
  calc (joinLiterals fragments).foldl pushFragment (joinLiterals before)
      = fragments.foldl pushFragment (joinLiterals before) := general [] fragments
    _ = joinLiterals (before ++ fragments) := by rw [joinLiterals, joinLiterals, List.foldl_append]

/-- **A fragment that is no text keeps its two sides apart.** -/
theorem joinLiterals_split (fragment : Fragment) (h : fragment.isLiteral = false)
    (before after : List Fragment) :
    joinLiterals (before ++ fragment :: after) =
      joinLiterals before ++ fragment :: joinLiterals after := by
  have general : ∀ rest : List Fragment,
      after.foldl pushFragment (joinLiterals before ++ fragment :: rest) =
        joinLiterals before ++ fragment :: after.foldl pushFragment rest := by
    induction after with
    | nil => exact fun _ => rfl
    | cons first after ih =>
      intro rest
      rw [List.foldl_cons, pushFragment_after h, ih, List.foldl_cons]
  rw [joinLiterals, List.foldl_append, List.foldl_cons]
  exact (congrArg (after.foldl pushFragment) (pushFragment_of_not_literal h _)).trans (general [])

/-- Where there is no text, nothing is joined. -/
theorem joinLiterals_of_none {fragments : List Fragment}
    (h : ∀ fragment ∈ fragments, fragment.isLiteral = false) : joinLiterals fragments = fragments := by
  induction fragments with
  | nil => rfl
  | cons fragment rest ih =>
    have := joinLiterals_split fragment (h fragment List.mem_cons_self) [] rest
    rw [List.nil_append] at this
    rw [this, ih fun other hother => h other (List.mem_cons_of_mem _ hother)]
    rfl

theorem joinLiterals_eq_nil_iff {fragments : List Fragment} :
    joinLiterals fragments = [] ↔ fragments = [] := by
  rcases List.eq_nil_or_concat fragments with rfl | ⟨first, last, rfl⟩
  · exact ⟨fun _ => rfl, fun _ => rfl⟩
  · rw [List.concat_eq_append, joinLiterals_concat]
    simp [pushFragment_ne_nil]

/-- **A fragment that is no text is among the joined fragments if it was among them before.** -/
theorem mem_joinLiterals_iff {fragments : List Fragment} {fragment : Fragment}
    (h : fragment.isLiteral = false) : fragment ∈ joinLiterals fragments ↔ fragment ∈ fragments := by
  have push : ∀ (others : List Fragment) (more : Fragment),
      fragment ∈ pushFragment others more ↔ fragment ∈ others ∨ fragment = more := by
    intro others more
    fun_induction pushFragment others more with
    | case1 => simp
    | case2 text more => cases fragment <;> simp_all [Fragment.isLiteral]
    | case3 first rest more _ ih => rw [List.mem_cons, ih, List.mem_cons, or_assoc]
  have general : ∀ rest others : List Fragment,
      fragment ∈ rest.foldl pushFragment others ↔ fragment ∈ others ∨ fragment ∈ rest := by
    intro rest
    induction rest with
    | nil => simp
    | cons first rest ih => intro others; rw [List.foldl_cons, ih, push, List.mem_cons, or_assoc]
  simpa [joinLiterals] using general fragments []

/-- **What is read off fragments that are no text** is read off the joined fragments. -/
theorem filterMap_joinLiterals {α : Type} (read : Fragment → Option α)
    (unread : ∀ text, read (.literal text) = none) (fragments : List Fragment) :
    (joinLiterals fragments).filterMap read = fragments.filterMap read := by
  have push : ∀ (others : List Fragment) (fragment : Fragment),
      (pushFragment others fragment).filterMap read =
        others.filterMap read ++ [fragment].filterMap read := by
    intro others fragment
    fun_induction pushFragment others fragment with
    | case1 => rfl
    | case2 text more => simp [unread]
    | case3 first rest fragment _ ih =>
      rw [← List.singleton_append, List.filterMap_append, ih, ← List.append_assoc,
        ← List.filterMap_append, List.singleton_append]
  have general : ∀ rest others : List Fragment,
      (rest.foldl pushFragment others).filterMap read = others.filterMap read ++ rest.filterMap read := by
    intro rest
    induction rest with
    | nil => simp
    | cons first rest ih =>
      intro others
      rw [List.foldl_cons, ih, push, List.append_assoc, ← List.filterMap_append, List.singleton_append]
  exact general fragments []

/-- Adding a fragment leaves text text and placeholders placeholders at the front. -/
theorem pushFragment_head (first : Fragment) (rest : List Fragment) (fragment : Fragment) :
    ∃ head tail, pushFragment (first :: rest) fragment = head :: tail ∧
      head.isLiteral = first.isLiteral := by
  cases rest with
  | cons second rest => exact ⟨_, _, pushFragment_cons (List.cons_ne_nil _ _) first fragment, rfl⟩
  | nil =>
    cases first with
    | literal text => cases fragment <;> exact ⟨_, _, rfl, rfl⟩
    | _ => exact ⟨_, _, rfl, rfl⟩

/-- **Text in its place:** no text is empty, and none follows another. -/
structure Joined (fragments : List Fragment) : Prop where
  nonempty : .literal "" ∉ fragments
  apart : fragments.IsChain fun first second => ¬ (first.isLiteral = true ∧ second.isLiteral = true)

/-- Adding a fragment that is not empty keeps text in its place. -/
theorem Joined.push {fragments : List Fragment} (h : Joined fragments) {fragment : Fragment}
    (nonempty : fragment ≠ .literal "") : Joined (pushFragment fragments fragment) := by
  obtain ⟨full, apart⟩ := h
  fun_induction pushFragment fragments fragment with
  | case1 fragment => exact ⟨by simpa using Ne.symm nonempty, .singleton _⟩
  | case2 text more =>
    refine ⟨?_, .singleton _⟩
    simp only [List.mem_singleton, Fragment.literal.injEq, ne_eq] at full nonempty ⊢
    exact fun empty => nonempty (String.append_eq_empty_iff.1 empty.symm).2
  | case3 first rest fragment other ih =>
    rw [List.mem_cons, not_or] at full
    obtain ⟨fullRest, apartRest⟩ := ih nonempty full.2 apart.tail
    refine ⟨?_, ?_⟩
    · rw [List.mem_cons, not_or]
      exact ⟨full.1, fullRest⟩
    · cases rest with
      | nil =>
        refine List.isChain_pair.2 fun both => ?_
        cases first with
        | literal text =>
          cases fragment with
          | literal more => exact other text more rfl rfl rfl
          | _ => exact Bool.false_ne_true both.2
        | _ => exact Bool.false_ne_true both.1
      | cons second more =>
        obtain ⟨head, tail, same, kind⟩ := pushFragment_head second more fragment
        rw [same] at apartRest ⊢
        refine List.isChain_cons_cons.2 ⟨?_, apartRest⟩
        rw [kind]
        exact (List.isChain_cons_cons.1 apart).1

/-- **Joining puts text in its place,** if none of it is empty. -/
theorem joined_joinLiterals {fragments : List Fragment}
    (nonempty : .literal "" ∉ fragments) : Joined (joinLiterals fragments) := by
  have general : ∀ rest others : List Fragment, .literal "" ∉ rest → Joined others →
      Joined (rest.foldl pushFragment others) := by
    intro rest
    induction rest with
    | nil => exact fun _ _ h => h
    | cons first rest ih =>
      intro others full h
      rw [List.mem_cons, not_or] at full
      exact ih _ full.2 (h.push (Ne.symm full.1))
  exact general fragments [] nonempty ⟨List.not_mem_nil, .nil⟩

end Outline
end MailMerge
