/-
# How a batch can fail

The recipients cannot be counted, a fault is not to be contained, or a text holds the opening
mark of keys. Filling in cannot fail: a table that was made has a column with an entry for
every recipient, and as faults cannot hold the marks every key of it leads to a text within
two passes more than there are sections.

So a batch that contains faults, for recipients that can be counted, fails only at a text
with the mark, and that text is one of the template's own or the value of an output.
-/

import MailMerge.Proofs.Outline.Batch
import MailMerge.Proofs.Outline.Written

namespace MailMerge

open MailMerge.Tree (Vocabulary)
open Render (Env Scope FilterSet)

namespace Outline

/-! ### Counting recipients -/

theorem checkLengths_error {expected : Nat} {columns : List (String × List Value)} {fault : Fault}
    (failed : checkLengths expected columns = .error fault) :
    ∃ name found, fault = .lengthMismatch name expected found := by
  induction columns with
  | nil => cases failed
  | cons column rest ih =>
    rw [checkLengths] at failed
    split at failed
    · exact ih failed
    · exact ⟨_, _, (Except.error.inj failed).symm⟩

/-- **Why recipients cannot be counted:** there are none, or a name has too few or too many values. -/
theorem Recipients.count_error {recipients : Recipients} {fault : Fault}
    (failed : recipients.count = .error fault) :
    fault = .emptyRecipients ∨ ∃ name expected found, fault = .lengthMismatch name expected found := by
  unfold Recipients.count at failed
  split at failed
  · exact .inl (Except.error.inj failed).symm
  · split at failed
    · rename_i own lengths
      obtain rfl := Except.error.inj failed
      obtain ⟨name, found, same⟩ := checkLengths_error lengths
      exact .inr ⟨name, _, found, same⟩
    · split at failed
      · exact .inl (Except.error.inj failed).symm
      · cases failed

/-- **Recipients in a rectangle are counted:** some name is bound, and all have a value for each
of the rows. -/
theorem Recipients.count_ok {recipients : Recipients} {rows : Nat} (bound : recipients.pairs ≠ [])
    (lengths : ∀ column ∈ recipients.pairs, column.2.length = rows) (least : 0 < rows) :
    recipients.count = .ok rows := by
  obtain ⟨⟨name, values⟩, rest, pairs⟩ := List.exists_cons_of_ne_nil bound
  rw [pairs] at lengths
  obtain ⟨rfl, others⟩ := List.forall_mem_cons.1 lengths
  have nonempty : values.isEmpty = false := List.isEmpty_eq_false_iff.2 (List.ne_nil_of_length_pos least)
  unfold Recipients.count
  rw [pairs]
  dsimp only
  rw [checkLengths_eq_ok_iff.2 others, nonempty]
  rfl

/-! ### Making a table -/

section Table

variable {format : KeyFormat} {env : Env} {index : Nat} {fault : Fault}

/-- **Why a placeholder cannot be filled:** its fault is not contained, or the text of an
output holds the opening mark. -/
inductive CellFault (format : KeyFormat) (env : Env) (index : Nat) : Producer → Fault → Prop
  | personal (producer : Producer) (fault : Render.Fault) (handed : env.strict = true) :
      CellFault format env index producer (.personal index fault)
  | reserved {output : Tree.Output} {text : String}
      (value : Render.settled env.strict (Render.renderOutput env output) = .ok text)
      (holds : Text.contains text format.opening = true) :
      CellFault format env index (.output output) (.reservedText text)

theorem cellFault_of_cell {producer : Producer} (failed : cell format env index producer = .error fault) :
    CellFault format env index producer fault := by
  rw [cell_eq] at failed
  generalize settled : Render.settled env.strict (producer.render env) = filled at failed
  match filled, producer with
  | .error own, _ =>
    obtain rfl := Except.error.inj failed
    refine .personal _ own ?_
    cases strict : env.strict with
    | true => rfl
    | false =>
      rw [strict] at settled
      unfold Render.settled at settled
      split at settled <;> cases settled
  | .ok _, .choice _ => cases failed
  | .ok text, .output output =>
    dsimp only at failed
    split at failed
    · rename_i holds
      obtain rfl := Except.error.inj failed
      exact .reserved settled holds
    · cases failed

theorem cells_error {producers : List Producer} (failed : cells format env index producers = .error fault) :
    ∃ producer ∈ producers, CellFault format env index producer fault := by
  rw [cells_eq_mapM] at failed
  obtain ⟨before, producer, after, rfl, own, -⟩ := mapM_eq_error failed
  exact ⟨producer, List.mem_append_right _ List.mem_cons_self, cellFault_of_cell own⟩

/-- **The first failure of the recipients** is that of a placeholder for one of them. -/
theorem rows_error {outline : Outline} {base : Env} {recipients : Recipients} {indices : List Nat}
    (failed : rows outline base recipients indices = .error fault) :
    ∃ index ∈ indices, ∃ producer ∈ outline.producers.entries,
      CellFault outline.format (base.enter (recipients.scope index)) index producer fault := by
  rw [rows_eq_mapM] at failed
  obtain ⟨before, index, after, rfl, own, -⟩ := mapM_eq_error failed
  exact ⟨index, List.mem_append_right _ List.mem_cons_self, cells_error own⟩

end Table

/-! ### Filling in -/

section Batch

variable {ring : Keyring} {outline : Outline} {pieces : List Piece} {base : Env}
  {recipients : Recipients}

/-- **A table that was made can be filled in:** it has a column of full length for every
placeholder, and the passes come to an end. -/
theorem Sketches.strings_table (h : Sketches ring outline pieces) (hidden : ring.format.Hidden)
    (sound : ∀ piece ∈ pieces, piece.Sound ring.format) {count : Nat} {table : Table}
    (counted : recipients.count = .ok count) (made : outline.table base recipients = .ok table) :
    ∃ texts, outline.strings table count = .ok texts := by
  have tabled := tableOf_table h.distinct_producers counted made
  have clean := hidden.cleanChoices h.format tabled
  obtain ⟨mark, separable, -⟩ := hidden
  obtain ⟨texts, filled, -⟩ := h.stringsExpand separable sound tabled clean
  exact ⟨texts, filled⟩

/-- **Why a batch of an outline fails:** the recipients cannot be counted, or a placeholder
cannot be filled for one of them. -/
theorem Sketches.batch_error (h : Sketches ring outline pieces) (hidden : ring.format.Hidden)
    (sound : ∀ piece ∈ pieces, piece.Sound ring.format) {fault : Fault}
    (failed : outline.batch base recipients = .error fault) :
    recipients.count = .error fault ∨ ∃ count, recipients.count = .ok count ∧ ∃ index < count,
      ∃ producer ∈ outline.producers.entries,
        CellFault outline.format (base.enter (recipients.scope index)) index producer fault := by
  unfold Outline.batch at failed
  split at failed
  · rename_i own counted
    obtain rfl := Except.error.inj failed
    exact .inl counted
  rename_i count counted
  split at failed
  · rename_i own unmade
    obtain rfl := Except.error.inj failed
    rw [Outline.table, counted] at unmade
    dsimp only at unmade
    split at unmade
    · rename_i other rows
      obtain rfl := Except.error.inj unmade
      obtain ⟨index, mem, producer, registered, blamed⟩ := rows_error rows
      exact .inr ⟨count, counted, index, List.mem_range.1 mem, producer, registered, blamed⟩
    · cases unmade
  · rename_i table made
    obtain ⟨texts, filled⟩ := h.strings_table hidden sound counted made
    cases filled.symm.trans failed

end Batch

end Outline

namespace Template

open Outline (Recipients Written)

/-- **A text that is written in a batch:** one that is written while the outline is drawn up,
or what an output that was put off comes to for one of the recipients. -/
inductive Writes (template : Template) (shared : Scope) (recipients : Recipients) : String → Prop
  | drawn {text : String} (own : Written (template.env shared) template.document.nodes text) :
      Writes template shared recipients text
  | filled {outline : Outline} {output : Tree.Output} {count index : Nat} {text : String}
      (drawn : (template.outline shared).1 = .ok outline)
      (later : .output output ∈ outline.producers.entries)
      (counted : recipients.count = .ok count) (less : index < count)
      (value : Render.settled template.settings.strict
        (Render.renderOutput ((template.env shared).enter (recipients.scope index)) output) = .ok text) :
      Writes template shared recipients text

/-- **Why merging fails.** -/
inductive Fails (template : Template) (shared : Scope) (recipients : Recipients) : Outline.Fault → Prop
  | empty (uncounted : recipients.count = .error .emptyRecipients) :
      Fails template shared recipients .emptyRecipients
  | uneven {name : String} {expected found : Nat}
      (uncounted : recipients.count = .error (.lengthMismatch name expected found)) :
      Fails template shared recipients (.lengthMismatch name expected found)
  | shared (fault : Render.Fault) (handed : template.settings.strict = true) :
      Fails template shared recipients (.shared fault)
  | personal (index : Nat) (fault : Render.Fault) (handed : template.settings.strict = true) :
      Fails template shared recipients (.personal index fault)
  | reserved {text : String} (own : template.Writes shared recipients text)
      (holds : Text.contains text template.ring.format.opening = true) :
      Fails template shared recipients (.reservedText text)

/-- **A template fails to merge only so,** if its keys are regular and faults cannot hold the
marks of them. -/
theorem fails_of_merge {template : Template} (regular : template.ring.Regular)
    (hidden : template.ring.format.Hidden) (distinct : template.document.ids.Nodup)
    (plain : template.document.actions = []) {shared : Scope} {recipients : Recipients}
    {fault : Outline.Fault} (failed : (template.merge shared recipients).1 = .error fault) :
    template.Fails shared recipients fault := by
  unfold Template.merge at failed
  generalize houtline : template.outline shared = drawn at failed
  match drawn with
  | (.error own, after) =>
    obtain rfl := Except.error.inj failed
    have sketched := Outline.ofDocument_sketched (template.env shared) regular distinct
    have result := congrArg Prod.fst houtline
    dsimp only [Template.outline] at result
    generalize Outline.ofDocument template.document (template.env shared) template.ring = found
      at sketched result
    obtain ⟨_, _, later⟩ := found
    obtain rfl := result
    have accounted := Outline.accounted_sketchAll hidden template.document.nodes
      (.refl (template.env shared)) plain
    cases accounted.fault own sketched with
    | reserved written holds => exact .reserved (.drawn written) holds
    | shared fault handed => exact .shared fault handed
  | (.ok outline, after) =>
    have result := congrArg Prod.fst houtline
    have template_after := congrArg Prod.snd houtline
    dsimp only [Template.outline] at result template_after
    obtain ⟨later, pieces, sketch, ring_format, sketches⟩ :=
      Outline.sketches_ofDocument regular distinct result
    have sound := Outline.sound_sketchAll _ _ pieces sketch
    rw [← ring_format] at hidden sound
    obtain rfl := template_after
    rcases sketches.batch_error hidden sound failed with
      uncounted | ⟨count, counted, index, less, producer, mem, blamed⟩
    · rcases Recipients.count_error uncounted with rfl | ⟨name, expected, found, rfl⟩
      · exact .empty uncounted
      · exact .uneven uncounted
    · cases blamed with
      | personal _ own handed => exact .personal index own handed
      | reserved value holds =>
        rw [sketches.format, ring_format] at holds
        exact .reserved (.filled (congrArg Prod.fst houtline) mem counted less value) holds

namespace Fails

variable {template : Template} {shared : Scope} {recipients : Recipients}

/-- A fault of rendering is handed back only by strict settings. -/
theorem strict_of_render {fault : Outline.Fault} (h : template.Fails shared recipients fault)
    (rendering : (∃ own, fault = .shared own) ∨ ∃ index own, fault = .personal index own) :
    template.settings.strict = true := by
  rcases rendering with ⟨own, rfl⟩ | ⟨index, own, rfl⟩
  · cases h with
    | shared _ handed => exact handed
  · cases h with
    | personal _ _ handed => exact handed

/-- A text that is refused is written, and holds the opening mark. -/
theorem writes {text : String} (h : template.Fails shared recipients (.reservedText text)) :
    template.Writes shared recipients text ∧ Text.contains text template.ring.format.opening = true := by
  cases h with
  | reserved own holds => exact ⟨own, holds⟩

/-- **Where faults are contained** and the recipients are counted only texts are refused. -/
theorem reserved_of_counted {fault : Outline.Fault} (h : template.Fails shared recipients fault)
    (contained : template.settings.strict = false) {count : Nat} (counted : recipients.count = .ok count) :
    ∃ text, fault = .reservedText text := by
  cases h with
  | empty uncounted => cases counted.symm.trans uncounted
  | uneven uncounted => cases counted.symm.trans uncounted
  | shared _ handed => cases contained.symm.trans handed
  | personal _ _ handed => cases contained.symm.trans handed
  | reserved _ _ => exact ⟨_, rfl⟩

end Fails

/-- **How merging fails.** With the standard tags and plain blocks, the standard marks, and
whatever filters, selection of names, data and keys handed out before: filling in never
fails, faults are handed back only if the settings say so, and a text is refused only if it
has the opening mark and is written in the batch. If faults are contained and the recipients
are in a rectangle that is not empty, nothing else fails. -/
theorem merge_fault {names : List String} {source : String} {settings : Settings} {template : Template}
    (parsed : Template.ofSource (Vocabulary.withBlocks names) settings source = .ok template)
    (format : settings.format = .standard) (filters : FilterSet) (known : List Outline.Slot)
    {shared : Scope} {recipients : Recipients} {fault : Outline.Fault}
    (failed : (Template.merge { template.withFilters filters with ring := template.ring.takeAll known }
      shared recipients).1 = .error fault) :
    (∀ index, fault ≠ .unresolved index) ∧
      (∀ key expected found, fault ≠ .tableMismatch key expected found) ∧
      ((∃ own, fault = .shared own) ∨ (∃ index own, fault = .personal index own) →
        settings.strict = true) ∧
      (∀ text, fault = .reservedText text → '\uE000' ∈ text.toList ∧
        Writes { template.withFilters filters with ring := template.ring.takeAll known }
          shared recipients text) ∧
      (settings.strict = false → ∀ rows, 0 < rows → recipients.pairs ≠ [] →
        (∀ column ∈ recipients.pairs, column.2.length = rows) → ∃ text, fault = .reservedText text) := by
  obtain ⟨document, hdocument, rfl⟩ := Template.ofSource_eq_ok parsed
  obtain ⟨⟨size, ids⟩, plain⟩ := Tree.Document.ids_ofSource (Vocabulary.plain_withBlocks names) hdocument
  have regular := (Outline.Keyring.regular_ofFormat settings.format).takeAll known
  have marks : ((Outline.Keyring.ofFormat settings.format).takeAll known).format = .standard :=
    (Outline.Keyring.takeAll_format ..).trans format
  have fails := fails_of_merge regular (marks ▸ Outline.KeyFormat.hidden_standard)
    (ids ▸ List.nodup_range) plain failed
  refine ⟨?_, ?_, fails.strict_of_render, ?_, ?_⟩
  · rintro index rfl
    cases fails
  · rintro key expected found rfl
    cases fails
  · rintro text rfl
    obtain ⟨written, holds⟩ := fails.writes
    rw [marks] at holds
    exact ⟨Outline.KeyFormat.separableBy_standard.contains_iff.1 holds, written⟩
  · intro contained rows least bound lengths
    exact fails.reserved_of_counted contained (Recipients.count_ok bound lengths least)

/-- A value of a recipient that has the opening mark, in a branch that is not even shown for
the recipient. -/
theorem merge_fault_branch :
    let source := "{% if a %}x{% else %}{{ b }}{% endif %}"
    let settings : Settings := { Settings.standard with selector := some (.ofNames ["a", "b"]) }
    let recipients : Recipients :=
      ⟨[("a", [.bool true, .bool true]), ("b", [.text "y", .text "z\uE000"])]⟩
    ∃ template, Template.ofSource (Vocabulary.withBlocks []) settings source = .ok template ∧
      (Template.merge { template.withFilters Render.standardFilters with
        ring := template.ring.takeAll [.halt] } ∅ recipients).1 = .error (.reservedText "z\uE000") ∧
      '\uE000' ∈ "z\uE000".toList ∧
      Writes { template.withFilters Render.standardFilters with ring := template.ring.takeAll [.halt] }
        ∅ recipients "z\uE000" := by
  intro source settings recipients
  have evaluated : ((Template.ofSource (Vocabulary.withBlocks []) settings source).toOption.map
      fun template => (Template.merge { template.withFilters Render.standardFilters with
        ring := template.ring.takeAll [.halt] } ∅ recipients).1) =
          some (.error (.reservedText "z\uE000")) := by
    decide +kernel
  obtain ⟨template, parsed, failed⟩ := Option.map_eq_some_iff.1 evaluated
  have parsed := Outline.eq_ok_of_toOption parsed
  have faults := merge_fault parsed rfl Render.standardFilters [.halt] failed
  obtain ⟨mem, written⟩ := faults.2.2.2.1 _ rfl
  exact ⟨template, parsed, failed, mem, written⟩

end Template

end MailMerge
