/-
# Whether data can forge a key

What recipients bring along gets into a table in two ways: as the text of an output,
which is refused if it holds the opening mark of keys, and quoted in the fault of a
predicate that orders a number against a text, which is not looked at. So whether an entry
can look like the key of something else depends on the fault alone.

| a character of the opening mark | a fault that holds the mark |
| --- | --- |
| one that quotes spell by its number, as the standard ones | there is none |
| only such that quotes leave as they are | the mark itself ordered against a number |
-/

import MailMerge.Proofs.Outline.Outcomes
import MailMerge.Proofs.Outline.Row

namespace MailMerge

open MailMerge.Tree (Vocabulary)
open Render (Env)

namespace Render

open Markup (Condition)

/-- The fault of a comparison is that of two values that cannot be ordered. -/
theorem exists_order_of_evalComparison {env : Env} {comparison : Markup.Comparison} {fault : Fault}
    (failed : evalComparison env comparison = .error fault) :
    ∃ left right, order left right = .error fault := by
  unfold evalComparison at failed
  dsimp only at failed
  split at failed
  · cases failed
  · rename_i operator right _
    unfold compareValues at failed
    split at failed
    · cases failed
    · cases failed
    · cases failed
    · refine ⟨evalExpr env comparison.left, evalExpr env right, ?_⟩
      cases ordered : order (evalExpr env comparison.left) (evalExpr env right) with
      | ok found => rw [ordered] at failed; cases failed
      | error own => rw [ordered] at failed; exact congrArg _ (Except.error.inj failed)

/-- **The fault of a condition** is that of two values that cannot be ordered. -/
theorem exists_order_of_evalCondition {env : Env} {condition : Condition} {fault : Fault}
    (failed : evalCondition env condition = .error fault) :
    ∃ left right, order left right = .error fault := by
  induction condition with
  | last comparison => exact exists_order_of_evalComparison failed
  | join comparison joint rest ih =>
    unfold evalCondition at failed
    split at failed
    · rename_i own first
      exact exists_order_of_evalComparison (first.trans failed)
    · cases failed
    · cases failed
    · exact ih failed

end Render

namespace Outline

open List (Forall₂)

/-! ### The entries of a table -/

/-- **What can stand in a table** for one recipient: for an output a text without the opening
mark, for a choice nothing, the key of its section, or a fault of its guard that it reports. -/
inductive Enters (format : KeyFormat) (env : Env) : Producer → String → Prop
  | output (output : Tree.Output) {text : String} (clean : Text.contains text format.opening = false) :
      Enters format env (.output output) text
  | unshown (choice : Choice) : Enters format env (.choice choice) ""
  | shown (choice : Choice) : Enters format env (.choice choice) choice.body
  | fault {choice : Choice} {owner : Nat} {fault : Render.Fault}
      (failed : choice.guard.check env = .error (owner, fault)) (reported : owner ∈ choice.reports) :
      Enters format env (.choice choice) fault.text

/-- **An entry that is no key of something else:** an output's without the opening mark, and
a choice's that is empty, the key of its section or without the opening mark. -/
def Producer.Unforged (format : KeyFormat) : Producer → String → Prop
  | .output _, text => Text.contains text format.opening = false
  | .choice own, text => text = "" ∨ text = own.body ∨ Text.contains text format.opening = false

section Entries

variable {format : KeyFormat} {env : Env} {index : Nat} {producer : Producer} {text : String}

theorem enters_of_cell (filled : cell format env index producer = .ok text) :
    Enters format env producer text := by
  match producer with
  | .output output =>
    rw [cell_eq] at filled
    split at filled
    · cases filled
    · split at filled
      · cases filled
      · rename_i clean
        obtain rfl := Except.ok.inj filled
        exact .output output (Bool.eq_false_iff.2 clean)
    · rename_i same
      cases same
  | .choice choice =>
    obtain ⟨rfl, -⟩ := cell_choice filled
    unfold Choice.entry
    split
    · exact .shown choice
    · exact .unshown choice
    · rename_i owner fault failed
      split
      · rename_i reported
        exact .fault failed (List.contains_iff_mem.1 reported)
      · exact .unshown choice

/-- **The columns of a table,** one for each placeholder, and what can stand in them. -/
theorem enters_columns {env : Nat → Env} {pairs : List (String × Producer)} {indices : List Nat}
    {found : List (List String)}
    (filled : Forall₂ (FillsRow format env (pairs.map (·.2))) indices found) :
    Forall₂ (fun own column => column.1 = own.1 ∧
      Forall₂ (fun index text => Enters format (env index) own.2 text) indices column.2)
        pairs (columns (pairs.map (·.1)) found) := by
  induction pairs generalizing found with
  | nil => exact .nil
  | cons pair rest ih =>
    obtain ⟨first, others⟩ := fillsRow_split filled
    exact .cons ⟨rfl, first.imp fun _ _ => enters_of_cell⟩ (ih others)

end Entries

/-- In a row every placeholder is filled. -/
theorem exists_cell {format : KeyFormat} {env : Nat → Env} {producers : List Producer} {index : Nat}
    {row : List String} (filled : FillsRow format env producers index row) {producer : Producer}
    (mem : producer ∈ producers) : ∃ text, Fills format env producer index text := by
  induction producers generalizing row with
  | nil => exact (List.not_mem_nil mem).elim
  | cons first rest ih =>
    obtain ⟨text, texts, rfl, own, others⟩ := filled.cons
    rcases List.mem_cons.1 mem with rfl | mem
    · exact ⟨text, own⟩
    · exact ih others mem

section Table

variable {outline : Outline} {base : Env} {recipients : Recipients} {count : Nat}

/-- **The table of an outline,** whatever the outline is. -/
theorem enters_table {table : Table} (counted : recipients.count = .ok count)
    (made : outline.table base recipients = .ok table) :
    Forall₂ (fun own column => column.1 = own.1 ∧
      Forall₂ (fun index text => Enters outline.format (base.enter (recipients.scope index)) own.2 text)
        (List.range count) column.2) outline.producers.pairs table.pairs := by
  rw [Outline.table, counted] at made
  dsimp only at made
  split at made
  · cases made
  · rename_i found filled
    obtain rfl := Except.ok.inj made
    exact enters_columns (rows_eq_ok_iff.1 filled)

/-- **A value with the opening mark is refused,** for whichever recipient and output. Where
faults are contained the table fails for a text that holds the mark. -/
theorem table_refused (counted : recipients.count = .ok count) {index : Nat} (less : index < count)
    {output : Tree.Output} (later : .output output ∈ outline.producers.entries) {text : String}
    (value : Render.settled base.strict
      (Render.renderOutput (base.enter (recipients.scope index)) output) = .ok text)
    (holds : Text.contains text outline.format.opening = true) :
    ∃ fault, outline.table base recipients = .error fault ∧ (base.strict = false →
      ∃ held, fault = .reservedText held ∧ Text.contains held outline.format.opening = true) := by
  have refused : ∀ found, rows outline base recipients (List.range count) ≠ .ok found := by
    intro found filled
    have all := rows_eq_ok_iff.1 filled
    have inside : index < (List.range count).length := by rwa [List.length_range]
    have row := all.get inside (all.length_eq ▸ inside)
    obtain ⟨entry, own⟩ := exists_cell row later
    rw [Fills, List.get_eq_getElem, List.getElem_range, cell_eq] at own
    have value : Render.settled (base.enter (recipients.scope index)).strict
        (Producer.render (.output output) (base.enter (recipients.scope index))) = .ok text := value
    rw [value] at own
    dsimp only at own
    rw [if_pos holds] at own
    cases own
  cases made : rows outline base recipients (List.range count) with
  | ok found => exact absurd made (refused found)
  | error fault =>
    refine ⟨fault, ?_, fun contained => ?_⟩
    · rw [Outline.table, counted]
      dsimp only
      rw [made]
    · obtain ⟨other, -, producer, -, blamed⟩ := rows_error made
      cases blamed with
      | personal _ _ handed => cases contained.symm.trans handed
      | @reserved _ held _ holds => exact ⟨held, rfl, holds⟩

end Table

/-! ### Faults that hold the opening mark -/

/-- **Marks that no fault holds:** ordering two values never gives a fault with the opening one. -/
def KeyFormat.Mute (format : KeyFormat) : Prop :=
  ∀ left right fault, Render.order left right = .error fault →
    Text.contains fault.text format.opening = false

/-- **A table without forged keys:** a column for each placeholder, with unforged entries. -/
def Table.Unforged (outline : Outline) (table : Table) : Prop :=
  Forall₂ (fun own column => column.1 = own.1 ∧
    ∀ text ∈ column.2, own.2.Unforged outline.format text) outline.producers.pairs table.pairs

/-- An entry of a table is unforged, if no fault holds the opening mark. -/
theorem Enters.unforged {format : KeyFormat} (mute : format.Mute) {env : Env} {producer : Producer}
    {text : String} (h : Enters format env producer text) : producer.Unforged format text := by
  cases h with
  | output _ clean => exact clean
  | unshown choice => exact .inl rfl
  | shown choice => exact .inr (.inl rfl)
  | fault failed reported =>
    obtain ⟨term, -, -, own⟩ := Guard.checkTerms_error failed
    obtain ⟨left, right, ordered⟩ := Render.exists_order_of_evalCondition own
    exact .inr (.inr (mute left right _ ordered))

/-- **Quotes keep faults clean** of a character that they spell by its number. -/
theorem KeyFormat.mute_of_escaped {format : KeyFormat} {c : Char} (mem : c ∈ format.opening.toList)
    (escaped : Text.escapedRanges.has c = true) : format.Mute := by
  intro left right fault ordered
  have shows : Text.Shows fault.text.toList := by
    rw [Render.Fault.text, String.toList_append]
    exact .append (Text.shows_of_all (by decide +kernel)) (Render.shows_order ordered)
  refine Bool.eq_false_iff.2 fun holds => ?_
  have inside := (Text.contains_iff.1 holds).subset mem
  exact Bool.false_ne_true ((shows c inside).symm.trans escaped)

/-- **Quotes pass on a mark** that they leave as it is. -/
theorem KeyFormat.not_mute_of_plain {format : KeyFormat}
    (plain : ∀ c ∈ format.opening.toList, Text.quoteChar c = [c]) : ¬ format.Mute := by
  intro mute
  have clean := mute (.text format.opening) (.int 1) _ rfl
  have same : format.opening.toList.flatMap Text.quoteChar = format.opening.toList := by
    generalize format.opening.toList = chars at plain
    induction chars with
    | nil => rfl
    | cons c rest ih =>
      obtain ⟨own, others⟩ := List.forall_mem_cons.1 plain
      rw [List.flatMap_cons, own, ih others]
      rfl
  have quoted : (Text.quoted format.opening).toList = '"' :: format.opening.toList ++ ['"'] := by
    rw [Text.quoted, String.toList_ofList, same]
  refine Bool.false_ne_true (clean.symm.trans (Text.contains_iff.2 ?_))
  -- The quoted mark stands in the middle of the message.
  have message : (Render.Fault.comparison (Value.text format.opening).inspect (Value.int 1).inspect).text =
      "Liquid error: " ++ ("comparison of " ++ Text.quoted format.opening ++ " with " ++ "1" ++ " failed") :=
    rfl
  have inside : format.opening.toList <:+: (Text.quoted format.opening).toList := by
    rw [quoted]
    exact ⟨['"'], ['"'], rfl⟩
  rw [message]
  simp only [String.toList_append, List.append_assoc]
  exact (inside.trans (List.prefix_append _ _).isInfix).trans
    ((List.suffix_append _ _).isInfix.trans (List.suffix_append _ _).isInfix)

/-! ### A predicate that orders two values of a recipient -/

/-- A conditional without a text, which orders the names `b` and `a`. -/
def orderSource : String := "{% if b > a %}{% endif %}"

def orderCondition : Markup.Condition := .last ⟨.lookup "b" [], some (.gt, .lookup "a" [])⟩

def orderDocument : Tree.Document :=
  ⟨[.conditional ⟨"if", "b > a", 6, ⟨0, 14⟩⟩ [⟨0, some orderCondition, []⟩]]⟩

def orderSettings (format : KeyFormat) : Settings := ⟨false, some (.ofNames ["a", "b"]), format⟩

def orderRecipients (left right : Value) : Recipients := ⟨[("a", [right]), ("b", [left])]⟩

/-- The passage of the conditional. -/
def orderPassage : Passage := ⟨0, 0, ⟨[⟨⟨0, 0, orderCondition⟩, true⟩]⟩, [0], []⟩

theorem sketchAll_order (format : KeyFormat) :
    (sketchAll format (rowEnv (orderSettings format) ∅) orderDocument.nodes).1 =
      .ok [.passage orderPassage] := rfl

/-- A choice is filled with a fault that it reports, where faults are contained. -/
theorem cell_reported {format : KeyFormat} {env : Env} {choice : Choice} {owner : Nat}
    {fault : Render.Fault} (failed : choice.guard.check env = .error (owner, fault))
    (reported : owner ∈ choice.reports) (contained : env.strict = false) (index : Nat) :
    cell format env index (.choice choice) = .ok fault.text := by
  have rendered : Producer.render (.choice choice) env = .error fault := by
    rw [Producer.render, Choice.render, failed]
    dsimp only
    rw [if_pos (List.contains_iff_mem.2 reported)]
  rw [cell_eq, rendered, contained]
  rfl

/-- A slot that had a key keeps it while a document is drawn up. -/
theorem extends_ofDocument {document : Tree.Document} {env : Env} {ring : Keyring}
    (regular : ring.Regular) (distinct : document.ids.Nodup) {outline : Outline}
    (drawn : (ofDocument document env ring).1 = .ok outline) :
    ring.Extends (ofDocument document env ring).2.2 := by
  have walk := draws_all document.nodes ⟨env, ring, none⟩ .empty [] (.empty regular) distinct
    fun _ mem => (List.not_mem_nil mem).elim
  unfold ofDocument at drawn ⊢
  generalize drawAll ⟨env, ring, none⟩ .empty document.nodes = result at walk drawn ⊢
  generalize sketchAll _ _ document.nodes = sketched at walk
  cases walk with
  | fault fault after => cases drawn
  | drawn grown => exact grown.later

section Order

variable {format : KeyFormat} {left right : Value} {fault : Render.Fault}
  (ordered : Render.order left right = .error fault)

include ordered

/-- The predicate fails for the recipient. -/
theorem check_order : orderPassage.guard.check
    ((rowEnv (orderSettings format) ∅).enter ((orderRecipients left right).scope 0)) =
      .error (0, fault) := by
  have own : Render.evalCondition
      ((rowEnv (orderSettings format) ∅).enter ((orderRecipients left right).scope 0)) orderCondition =
        (Render.order left right).map fun found => found.any (Render.admits .gt) := rfl
  rw [Guard.check, orderPassage, Guard.checkTerms, own, ordered]
  rfl

/-- **The fault stands in the table,** beside a section that has the key it had before. -/
theorem table_order {ring : Keyring} (regular : ring.Regular) (marks : ring.format = format)
    (has : ring.Has (.body 0 0)) :
    ∃ outline key choice table,
      (ofDocument orderDocument (rowEnv (orderSettings format) ∅) ring).1 = .ok outline ∧
      outline.table (rowEnv (orderSettings format) ∅) (orderRecipients left right) = .ok table ∧
      outline.format = format ∧ outline.producers.pairs = [(key, .choice choice)] ∧
      choice.body = ring.keyOf (.body 0 0) ∧ table.pairs = [(key, [fault.text])] := by
  have distinct : orderDocument.ids.Nodup := by decide
  have sketch := sketchAll_order format
  rw [← marks] at sketch
  obtain ⟨outline, drawn, sketches⟩ := ofDocument_of_sketch regular distinct sketch
  rw [marks] at drawn sketches
  have later := extends_ofDocument regular distinct drawn
  generalize (ofDocument orderDocument (rowEnv (orderSettings format) ∅) ring).2.2 = last at later sketches
  have counted : (orderRecipients left right).count = .ok 1 := rfl
  have producers : outline.producers.pairs =
      [(last.keyOf orderPassage.choiceSlot, .choice (orderPassage.choice last))] :=
    sketches.producers.eq_singleton
  have filled : cell outline.format
      ((rowEnv (orderSettings format) ∅).enter ((orderRecipients left right).scope 0)) 0
        (.choice (orderPassage.choice last)) = .ok fault.text :=
    cell_reported (check_order ordered) (List.mem_singleton_self 0) rfl 0
  refine ⟨outline, last.keyOf orderPassage.choiceSlot, orderPassage.choice last,
    ⟨columns outline.producers.keys [[fault.text]]⟩, drawn, ?_, ?_, producers, later.keyOf has, ?_⟩
  · have row : rows outline (rowEnv (orderSettings format) ∅) (orderRecipients left right) (List.range 1) =
        .ok [[fault.text]] := by
      rw [List.range_one, rows, Dict.entries, producers, List.map_singleton, cells_cons]
      dsimp only
      rw [filled]
      rfl
    rw [Outline.table, counted]
    dsimp only
    rw [row]
  · exact sketches.format.trans (later.format.trans marks)
  · rw [Dict.keys, producers]
    rfl

end Order

/-- **No key is forged where no fault holds the opening mark.** -/
theorem KeyFormat.Mute.unforged {outline : Outline} (mute : outline.format.Mute) {base : Env}
    {recipients : Recipients} {table : Table} (made : outline.table base recipients = .ok table) :
    table.Unforged outline := by
  obtain ⟨count, counted⟩ : ∃ count, recipients.count = .ok count := by
    cases counted : recipients.count with
    | ok count => exact ⟨count, rfl⟩
    | error fault => rw [Outline.table, counted] at made; cases made
  refine (enters_table counted made).imp fun own column filled => ⟨filled.1, fun text mem => ?_⟩
  obtain ⟨position, less, rfl⟩ := List.mem_iff_getElem.1 mem
  exact (filled.2.get (filled.2.length_eq ▸ less) less).unforged mute

/-- **Where a fault holds the opening mark a key is forged:** the fault stands in a table. It
might be the very key of its section, but then it is not if another key was handed out first. -/
theorem exists_forged_of_not_mute {format : KeyFormat} (speaks : ¬ format.Mute) :
    ∃ source template known outline recipients table,
      Template.ofSource (Vocabulary.withBlocks []) (orderSettings format) source = .ok template ∧
      (Template.outline { template with ring := template.ring.takeAll known } ∅).1 = .ok outline ∧
      outline.table (template.env ∅) recipients = .ok table ∧ ¬ table.Unforged outline := by
  simp only [KeyFormat.Mute, not_forall, Bool.not_eq_false] at speaks
  obtain ⟨left, right, fault, ordered, holds⟩ := speaks
  have forged : ∀ known number, ((Keyring.ofFormat format).takeAll known).find? (.body 0 0) =
      some (format.key number) → fault.text ≠ format.key number →
      ∃ outline table, (ofDocument orderDocument (rowEnv (orderSettings format) ∅)
          ((Keyring.ofFormat format).takeAll known)).1 = .ok outline ∧
        outline.table (rowEnv (orderSettings format) ∅) (orderRecipients left right) = .ok table ∧
        ¬ table.Unforged outline := by
    intro known number found other
    obtain ⟨outline, key, choice, table, drawn, made, marks, producers, body, pairs⟩ :=
      table_order ordered ((Keyring.regular_ofFormat format).takeAll known)
        (Keyring.takeAll_format ..) ⟨_, found⟩
    rw [Keyring.keyOf, found, Option.getD_some] at body
    refine ⟨outline, table, drawn, made, fun unforged => ?_⟩
    rw [Table.Unforged, producers, pairs, marks] at unforged
    cases unforged with
    | cons own _ =>
      rcases own.2 _ (List.mem_singleton_self _) with empty | shown | clean
      · rw [Render.Fault.text, String.append_eq_empty_iff] at empty
        exact absurd empty.1 (by decide)
      · exact other (shown.trans body)
      · exact Bool.false_ne_true (clean.symm.trans holds)
  obtain ⟨known, outline, table, drawn, made, unforged⟩ : ∃ known outline table,
      (ofDocument orderDocument (rowEnv (orderSettings format) ∅)
          ((Keyring.ofFormat format).takeAll known)).1 = .ok outline ∧
        outline.table (rowEnv (orderSettings format) ∅) (orderRecipients left right) = .ok table ∧
        ¬ table.Unforged outline := by
    by_cases same : fault.text = format.key 1
    · have different : fault.text ≠ format.key 2 := by
        rw [same]
        exact fun equal => absurd (KeyFormat.key_injective equal) (by decide)
      exact ⟨_, forged [.halt, .body 0 0] 2 rfl different⟩
    · exact ⟨_, forged [.body 0 0] 1 rfl same⟩
  exact ⟨orderSource, ⟨orderDocument, orderSettings format, Render.standardFilters, .ofFormat format⟩,
    known, outline, orderRecipients left right, table, rfl, drawn, made, unforged⟩

/-- **Which keys recipients can forge.** Of every outline, in every environment and for all
recipients, a table has for each placeholder and recipient what can stand there, and there is no
table if the text of an output holds the opening mark: where faults are contained a text that
holds it is refused. If no fault of ordering two values holds the mark no table has a forged key;
otherwise the outline of some template has a table with one. No fault holds a mark with a
character that quotes spell by its number, some fault holds a mark that quotes leave as it is. -/
theorem KeyFormat.table_unforged (format : KeyFormat) :
    (∀ (outline : Outline) (base : Env) (recipients : Recipients) (count : Nat),
      outline.format = format → recipients.count = .ok count →
      (∀ table, outline.table base recipients = .ok table →
        Forall₂ (fun own column => column.1 = own.1 ∧
          Forall₂ (fun index text => Enters format (base.enter (recipients.scope index)) own.2 text)
            (List.range count) column.2) outline.producers.pairs table.pairs) ∧
      ∀ index < count, ∀ output text, .output output ∈ outline.producers.entries →
        Render.settled base.strict
          (Render.renderOutput (base.enter (recipients.scope index)) output) = .ok text →
        Text.contains text format.opening = true →
          ∃ fault, outline.table base recipients = .error fault ∧ (base.strict = false →
            ∃ held, fault = .reservedText held ∧ Text.contains held format.opening = true)) ∧
    (format.Mute → ∀ (outline : Outline) (base : Env) (recipients : Recipients) (table : Table),
      outline.format = format → outline.table base recipients = .ok table → table.Unforged outline) ∧
    (¬ format.Mute → ∃ source template known outline recipients table,
      Template.ofSource (Vocabulary.withBlocks []) (orderSettings format) source = .ok template ∧
      (Template.outline { template with ring := template.ring.takeAll known } ∅).1 = .ok outline ∧
      outline.table (template.env ∅) recipients = .ok table ∧ ¬ table.Unforged outline) ∧
    ((∃ c ∈ format.opening.toList, Text.escapedRanges.has c = true) → format.Mute) ∧
    ((∀ c ∈ format.opening.toList, Text.quoteChar c = [c]) → ¬ format.Mute) := by
  refine ⟨?_, ?_, exists_forged_of_not_mute, fun ⟨c, mem, escaped⟩ => mute_of_escaped mem escaped,
    not_mute_of_plain⟩
  · rintro outline base recipients count rfl counted
    exact ⟨fun table made => enters_table counted made,
      fun index less output text later value holds => table_refused counted less later value holds⟩
  · rintro mute outline base recipients table rfl made
    exact mute.unforged made

/-- Nothing can forge the standard keys. An angle bracket is accepted as opening mark too, and
then a recipient's text can get into a table as what looks like a key. -/
theorem KeyFormat.table_unforged_brackets :
    let brackets : Settings := { Settings.standard with format := ⟨"<", ">"⟩ }
    Settings.standard.check = .ok () ∧ Settings.standard.format.Mute ∧
      (∀ (outline : Outline) (base : Env) (recipients : Recipients) (table : Table),
        outline.format = .standard → outline.table base recipients = .ok table →
          table.Unforged outline) ∧
      brackets.check = .ok () ∧ ∃ source template known outline recipients table,
        Template.ofSource (Vocabulary.withBlocks []) (orderSettings brackets.format) source =
          .ok template ∧
        (Template.outline { template with ring := template.ring.takeAll known } ∅).1 = .ok outline ∧
        outline.table (template.env ∅) recipients = .ok table ∧ ¬ table.Unforged outline := by
  intro brackets
  have standard : Settings.standard.check = .ok () := by decide +kernel
  have accepted : brackets.check = .ok () := by decide +kernel
  obtain ⟨-, unforged, -, escaped, -⟩ := table_unforged .standard
  obtain ⟨-, -, forged, -, plain⟩ := table_unforged brackets.format
  have mute : KeyFormat.standard.Mute := escaped ⟨'\uE000', by decide +kernel, by decide +kernel⟩
  have quoted_plain : ∀ c ∈ brackets.format.opening.toList, Text.quoteChar c = [c] := by
    have opening : brackets.format.opening.toList = ['<'] := by decide +kernel
    rw [opening, List.forall_mem_singleton]
    decide +kernel
  exact ⟨standard, mute, unforged mute, accepted, forged (plain quoted_plain)⟩

end Outline
end MailMerge
