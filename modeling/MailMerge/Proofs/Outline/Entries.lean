/-
# The entries of a table

An entry of a recipient is the text of an output, the key of a section, nothing, or the
fault that a choice reports. Quotes in faults spell characters for private use by their
numbers, so with such a character as the opening mark no fault can be taken for a key, and
then the texts of the recipients are always the outline expanded.
-/

import MailMerge.Proofs.Outline.Answers
import MailMerge.Proofs.Outline.Expansion
import MailMerge.Proofs.Render.Showing

namespace MailMerge
namespace Outline

open Render (Env)

section Entries

variable {format : KeyFormat} {env : Env} {index : Nat} {text : String}

/-- **What fills a choice,** a fault being contained. -/
def Choice.entry (choice : Choice) (env : Env) : String :=
  match choice.guard.check env with
  | .ok true => choice.body
  | .ok false => ""
  | .error (owner, fault) => if choice.reports.contains owner then fault.text else ""

/-- **What fills a placeholder** is what its producer comes to, unless that is a fault or the
text of an output that holds the opening mark. -/
theorem cell_eq (producer : Producer) :
    cell format env index producer =
      match Render.settled env.strict (producer.render env), producer with
      | .error fault, _ => .error (.personal index fault)
      | .ok text, .output _ =>
        if Text.contains text format.opening then .error (.reservedText text) else .ok text
      | .ok text, .choice _ => .ok text := by
  unfold cell fillCell
  cases producer.render env with
  | ok text => cases producer <;> rfl
  | error fault =>
    have contained : (env.contain fault).1 = Render.settled env.strict (.error fault) :=
      Render.contained_fst (.error fault) env
    dsimp only
    generalize env.contain fault = found at contained ⊢
    obtain ⟨filled, after⟩ := found
    dsimp only at contained
    subst contained
    cases Render.settled env.strict (.error fault) <;> cases producer <;> rfl

/-- What fills a placeholder is what its producer comes to. -/
theorem settled_of_cell {producer : Producer} (h : cell format env index producer = .ok text) :
    Render.settled env.strict (producer.render env) = .ok text := by
  rw [cell_eq] at h
  generalize Render.settled env.strict (producer.render env) = filled at h ⊢
  match filled, producer with
  | .error _, _ => cases h
  | .ok found, .choice _ => exact congrArg _ (Except.ok.inj h)
  | .ok found, .output _ =>
    dsimp only at h
    split at h
    · cases h
    · exact congrArg _ (Except.ok.inj h)

/-- **The entry of a choice.** If it reports a fault, faults are contained. -/
theorem cell_choice {choice : Choice} (h : cell format env index (.choice choice) = .ok text) :
    text = choice.entry env ∧ ∀ owner fault, choice.guard.check env = .error (owner, fault) →
      choice.reports.contains owner = true → env.strict = false := by
  have settled := settled_of_cell h
  rw [Producer.render, Choice.render] at settled
  unfold Choice.entry
  cases outcome : choice.guard.check env with
  | ok shown =>
    rw [outcome] at settled
    cases shown <;> exact ⟨(Except.ok.inj settled).symm, fun _ _ failed => by cases failed⟩
  | error report =>
    obtain ⟨owner, fault⟩ := report
    rw [outcome] at settled
    dsimp only at settled ⊢
    cases reports : choice.reports.contains owner with
    | true =>
      rw [if_pos reports] at settled
      cases strict : env.strict with
      | true =>
        rw [strict] at settled
        cases settled
      | false =>
        rw [strict] at settled
        exact ⟨(Except.ok.inj settled).symm, fun _ _ _ _ => rfl⟩
    | false =>
      rw [reports] at settled
      refine ⟨(Except.ok.inj settled).symm, fun other found same reported => ?_⟩
      obtain ⟨rfl, -⟩ := Prod.mk.inj (Except.error.inj same)
      rw [reports] at reported
      cases reported

end Entries

/-! ### Marks that no fault holds -/

/-- **Marks that faults cannot hold:** they tell keys apart, and quotes spell the opening
one by its number. -/
def KeyFormat.Hidden (format : KeyFormat) : Prop :=
  ∃ mark, format.SeparableBy mark ∧ Text.escapedRanges.has mark = true

/-- The standard marks tell keys apart. -/
theorem KeyFormat.separableBy_standard : KeyFormat.standard.SeparableBy '\uE000' := by
  refine ⟨rfl, ?_, ?_, ?_⟩ <;> decide +kernel

/-- Faults cannot hold the standard marks. -/
theorem KeyFormat.hidden_standard : KeyFormat.standard.Hidden :=
  ⟨'\uE000', separableBy_standard, by decide +kernel⟩

section Hidden

variable {format : KeyFormat} (hidden : format.Hidden)

include hidden

theorem KeyFormat.Hidden.contains_empty : Text.contains "" format.opening = false := by
  obtain ⟨mark, separable, -⟩ := hidden
  rw [separable.opening, Text.contains, String.toList_singleton]
  rfl

/-- **The fault of a predicate** does not hold the opening mark. -/
theorem KeyFormat.Hidden.contains_predicate {env : Env} {condition : Markup.Condition}
    {fault : Render.Fault} (failed : Render.evalCondition env condition = .error fault) :
    Text.contains fault.text format.opening = false := by
  obtain ⟨mark, separable, escaped⟩ := hidden
  have message := Render.shows_evalCondition failed
  have shows : Text.Shows fault.text.toList := by
    rw [Render.Fault.text, String.toList_append]
    exact .append (Text.shows_of_all (by decide +kernel)) message
  refine Bool.eq_false_iff.2 fun contains => ?_
  rw [shows mark (separable.contains_iff.1 contains)] at escaped
  cases escaped

/-- **The fault of a guard** does not hold the opening mark. -/
theorem KeyFormat.Hidden.contains_fault {guard : Guard} {env : Env} {owner : Nat} {fault : Render.Fault}
    (failed : guard.check env = .error (owner, fault)) :
    Text.contains fault.text format.opening = false := by
  obtain ⟨term, -, -, own⟩ := Guard.checkTerms_error failed
  exact hidden.contains_predicate own

/-- **The entry of a choice** is the key of its section, or does not hold the opening mark. -/
theorem KeyFormat.Hidden.contains_entry {choice : Choice} {env : Env}
    (unshown : choice.guard.check env ≠ .ok true) :
    Text.contains (choice.entry env) format.opening = false := by
  unfold Choice.entry
  split
  · rename_i holds
    exact absurd holds unshown
  · exact hidden.contains_empty
  · rename_i owner fault failed
    split
    · exact hidden.contains_fault failed
    · exact hidden.contains_empty

/-- **No choice can be mistaken** for another one. -/
theorem KeyFormat.Hidden.cleanChoices {outline : Outline} {base : Env} {recipients : Recipients}
    {count : Nat} {table : Table} (marks : outline.format = format)
    (made : TableOf outline base recipients count table) : CleanChoices outline table count := by
  intro key choice found index less
  rw [(cell_choice (made.entry _ _ (Dict.mem_pairs_of_find? found) index less)).1, marks]
  by_cases shown : choice.guard.check (base.enter (recipients.scope index)) = .ok true
  · rw [Choice.entry, shown]
    exact .inl rfl
  · exact .inr (hidden.contains_entry shown)

/-- **Where faults cannot hold the marks the format is always faithful.** -/
theorem KeyFormat.Hidden.alwaysFaithful (known : List Slot) : format.AlwaysFaithful known := by
  obtain ⟨mark, separable, -⟩ := id hidden
  exact separable.expandsWhere (fun marks made _ => hidden.cleanChoices marks made) known

end Hidden

end Outline
end MailMerge
