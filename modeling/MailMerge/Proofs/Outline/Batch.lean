/-
# Merging a batch is rendering one by one

A recipient's entries of the table answer what the recipient reads. Where no fault can be
taken for a key, as with the standard marks, filling in is reading. So the texts of a
batch are those of the recipients, each of whom is rendered alone with the own values
laid over the shared ones, provided a name that is not personal has the same value in both.
-/

import MailMerge.Proofs.Outline.Entries
import MailMerge.Proofs.Outline.Simulation

namespace MailMerge

open MailMerge.Tree (Vocabulary)
open Render (Env Scope FilterSet Selector SameData Shares)

namespace Outline

section Batch

variable {ring : Keyring} {outline : Outline} {pieces : List Piece} {base : Env}
  {recipients : Recipients} {count : Nat} {table : Table}

namespace Sketches

variable (h : Sketches ring outline pieces) (made : TableOf outline base recipients count table)
  {index : Nat} (less : index < count)

include h made less

/-- The entry of a passage's choice is what fills it. -/
theorem cell_passage {passage : Passage} (mem : .passage passage ∈ pieces) :
    cell outline.format (base.enter (recipients.scope index)) index (.choice (passage.choice ring)) =
      .ok (table.slotEntry ring index passage.choiceSlot) :=
  made.entry _ _ (Dict.mem_pairs_of_find? (h.find?_choice mem)) index less

/-- **The entries of a recipient** answer what stands in the sketch. -/
theorem answers : Answers (base.enter (recipients.scope index)) (table.slotEntry ring index) pieces where
  output piece mem source hsource := by
    have registered : (ring.keyOf (.output source.id), Producer.output source) ∈ outline.producers.pairs :=
      h.producers.mem_iff.2 (mem_producersIn_output.2 ⟨piece, mem, hsource, rfl⟩)
    exact settled_of_cell (made.entry _ _ registered index less)
  choice passage mem := (cell_choice (h.cell_passage made less mem)).2

/-- **A passage is filled in as it is read,** since nothing else it comes to is its key. -/
theorem fillPassage_eq_readPassage (hidden : ring.format.Hidden) {passage : Passage}
    (mem : .passage passage ∈ pieces) :
    fillPassage ring (table.slotEntry ring index) passage =
      readPassage (base.enter (recipients.scope index)) (table.slotEntry ring index) passage := by
  have own := (cell_choice (h.cell_passage made less mem)).1
  rw [fillPassage, own]
  by_cases shown : passage.guard.check (base.enter (recipients.scope index)) = .ok true
  · have entry : (passage.choice ring).entry (base.enter (recipients.scope index)) =
        ring.keyOf passage.bodySlot := by
      rw [Choice.entry, Passage.choice, shown]
    rw [if_pos entry, readPassage, shown]
  · have clean : Text.contains ((passage.choice ring).entry (base.enter (recipients.scope index)))
        ring.format.opening = false := hidden.contains_entry shown
    have key : Text.contains (ring.keyOf passage.bodySlot) ring.format.opening = true := by
      rw [h.regular.keyOf_eq (h.keyed.has _ (Keyed.bodySlot_mem mem))]
      exact KeyFormat.contains_key _ _
    rw [if_neg fun same => by rw [same, key] at clean; cases clean]
    unfold Choice.entry readPassage Passage.choice
    dsimp only
    generalize passage.guard.check (base.enter (recipients.scope index)) = outcome at shown
    obtain ⟨owner, fault⟩ | holds := outcome
    · rfl
    · cases holds with
      | true => exact absurd rfl shown
      | false => rfl

/-- **A sketch is filled in as it is read.** -/
theorem fillPieces_eq_readPieces (hidden : ring.format.Hidden) :
    fillPieces ring (table.slotEntry ring index) pieces =
      readPieces (base.enter (recipients.scope index)) (table.slotEntry ring index) pieces := by
  have general : ∀ some ⊆ pieces, fillPieces ring (table.slotEntry ring index) some =
      readPieces (base.enter (recipients.scope index)) (table.slotEntry ring index) some := by
    intro some sub
    induction some with
    | nil => rfl
    | cons piece rest ih =>
      obtain ⟨mem, others⟩ := List.cons_subset.1 sub
      rw [fillPieces, readPieces, ih others]
      cases piece with
      | part own => rfl
      | passage own => rw [fillPiece, readPiece, h.fillPassage_eq_readPassage made less hidden mem]
  exact general pieces (List.Subset.refl _)

end Sketches

end Batch

/-! ### The data of one recipient -/

theorem checkLengths_eq_ok_iff {expected : Nat} {columns : List (String × List Value)} :
    checkLengths expected columns = .ok () ↔ ∀ column ∈ columns, column.2.length = expected := by
  induction columns with
  | nil => exact ⟨fun _ _ mem => (List.not_mem_nil mem).elim, fun _ => rfl⟩
  | cons column rest ih =>
    rw [checkLengths, List.forall_mem_cons, ← ih]
    split
    · rename_i same
      exact (and_iff_right same).symm
    · rename_i different
      exact ⟨fun h => (by cases h), fun h => absurd h.1 different⟩

/-- All names have a value for every recipient that is counted. -/
theorem length_of_count {recipients : Recipients} {count : Nat} (h : recipients.count = .ok count) :
    ∀ column ∈ recipients.pairs, column.2.length = count := by
  unfold Recipients.count at h
  split at h
  · cases h
  · rename_i first rest pairs
    split at h
    · cases h
    · rename_i lengths
      split at h
      · cases h
      · obtain rfl := Except.ok.inj h
        rw [pairs]
        exact List.forall_mem_cons.2 ⟨rfl, checkLengths_eq_ok_iff.1 lengths⟩

/-- **Recipients that agree with shared data:** a name that is not personal has for all of
them the value it has in the shared data. -/
def Recipients.AgreeWith (recipients : Recipients) (selector : Option Selector) (shared : Scope) : Prop :=
  ∀ name values, recipients.find? name = some values →
    (∃ own ∈ selector, own.selects name = true) ∨
      ∃ value, shared.find? name = some value ∧ ∀ other ∈ values, other = value

section Data

variable {recipients : Recipients} {shared : Scope} {count index : Nat} (template : Template)

/-- The own values of a recipient over the shared ones are the recipient's data. -/
theorem sameData_overlay (distinct : recipients.DistinctKeys) :
    SameData (template.env (shared.overlay (recipients.scope index)))
      ((template.env shared).enter (recipients.scope index)) where
  filters := rfl
  strict := rfl
  get name := by
    have scope_distinct : (recipients.scope index).DistinctKeys := by
      rw [Dict.DistinctKeys, Recipients.scope, Dict.keys_mapEntries]
      exact distinct
    simp only [Env.get, Template.env, Env.enter, Env.ofFilters, Env.findIn]
    rw [Dict.find?_overlay shared scope_distinct]
    cases (recipients.scope index).find? name <;> rfl

/-- What is not personal has its shared value for every recipient. -/
theorem shares_scope (agree : recipients.AgreeWith template.settings.selector shared)
    (counted : recipients.count = .ok count) (less : index < count) :
    Shares (template.env shared) ((template.env shared).enter (recipients.scope index)) where
  filters := rfl
  strict := rfl
  get name unselected := by
    have scope : (recipients.scope index).find? name =
        (recipients.find? name).map fun values => values[index]?.getD .nil := Dict.find?_mapEntries ..
    simp only [Env.get, Template.env, Env.enter, Env.ofFilters, Env.findIn, scope]
    cases found : recipients.find? name with
    | none => rfl
    | some values =>
      rcases agree name values found with ⟨own, selector, selects⟩ | ⟨value, bound, same⟩
      · simp [Env.selects, Template.env, Option.mem_def.1 selector, selects] at unselected
      · have length := length_of_count counted _ (Dict.mem_pairs_of_find? found)
        have entry : values[index]? = some values[index] := List.getElem?_eq_getElem (length ▸ less)
        rw [bound, Option.map_some, entry, Option.getD_some, same _ (List.getElem_mem _)]

end Data

/-- **A batch of an outline** has for every recipient the text that is rendered alone. -/
theorem Sketches.batch_agrees (template : Template) {ring : Keyring} {outline : Outline}
    {pieces : List Piece} {shared : Scope} {recipients : Recipients} {texts : List String}
    (h : Sketches ring outline pieces) (hidden : ring.format.Hidden)
    (sketch : (sketchAll ring.format (template.env shared) template.document.nodes).1 = .ok pieces)
    (distinct : template.document.ids.Nodup) (plain : template.document.actions = [])
    (names : recipients.DistinctKeys) (agree : recipients.AgreeWith template.settings.selector shared)
    (batch : outline.batch (template.env shared) recipients = .ok texts) :
    recipients.count = .ok texts.length ∧
      ∀ index (less : index < texts.length),
        template.render (shared.overlay (recipients.scope index)) = .ok texts[index] := by
  unfold Outline.batch at batch
  split at batch
  · cases batch
  rename_i count counted
  split at batch
  · cases batch
  rename_i table made
  have tabled := tableOf_table h.distinct_producers counted made
  have clean := hidden.cleanChoices h.format tabled
  obtain ⟨mark, separable, -⟩ := id hidden
  have strings := h.strings separable (sound_sketchAll _ _ pieces sketch) tabled.keys tabled.lengths
    fun index less => h.cleanEntries separable tabled clean less
  obtain rfl := Except.ok.inj (strings.symm.trans batch)
  refine ⟨by rw [List.length_map, List.length_range]; exact counted, fun index bound => ?_⟩
  have less : index < count := by
    rwa [List.length_map, List.length_range] at bound
  have beside : Beside ((template.env shared).enter (recipients.scope index)) (template.env shared)
      (template.env (shared.overlay (recipients.scope index))) :=
    ⟨shares_scope template agree counted less, sameData_overlay template names, rfl, rfl⟩
  have reads := reads_sketchAll template.document.nodes beside plain distinct (Prod.ext sketch rfl)
    (h.answers tabled less)
  rw [← h.fillPieces_eq_readPieces tabled less hidden] at reads
  rw [List.getElem_map, List.getElem_range]
  exact reads.text

end Outline

/-- **Merging agrees with rendering.** The texts of a batch are, one for each recipient, what
rendering gives with the recipient's values laid over the shared ones: for all sources with
the standard tags and plain blocks, all filters and selections of names, and whatever keys
have been handed out before, if a name that is not personal has its shared value for all. -/
theorem Template.merge_agrees_render {names : List String} {source : String} {settings : Settings}
    {template : Template}
    (parsed : Template.ofSource (Vocabulary.withBlocks names) settings source = .ok template)
    (format : settings.format = .standard) (filters : FilterSet) (known : List Outline.Slot)
    {shared : Scope} {recipients : Outline.Recipients} (distinct : recipients.DistinctKeys)
    (agree : recipients.AgreeWith settings.selector shared) {texts : List String}
    (merged : (Template.merge { template.withFilters filters with ring := template.ring.takeAll known }
      shared recipients).1 = .ok texts) :
    recipients.count = .ok texts.length ∧
      ∀ index (less : index < texts.length),
        (template.withFilters filters).render (shared.overlay (recipients.scope index)) =
          .ok texts[index] := by
  obtain ⟨document, hdocument, rfl⟩ := Template.ofSource_eq_ok parsed
  obtain ⟨⟨size, ids⟩, plain⟩ := Tree.Document.ids_ofSource (Vocabulary.plain_withBlocks names) hdocument
  have ids_distinct : document.ids.Nodup := ids ▸ List.nodup_range
  have regular := (Outline.Keyring.regular_ofFormat settings.format).takeAll known
  unfold Template.merge at merged
  generalize houtline : Template.outline _ shared = drawn at merged
  match drawn with
  | (.error fault, after) => cases merged
  | (.ok outline, after) =>
    have result := congrArg Prod.fst houtline
    have template_after := congrArg Prod.snd houtline
    dsimp only [Template.outline] at result template_after
    obtain ⟨later, pieces, sketch, ring_format, sketches⟩ :=
      Outline.sketches_ofDocument regular ids_distinct result
    rw [← ring_format] at sketch
    rw [Outline.Keyring.takeAll_format] at ring_format
    obtain rfl := template_after
    have hidden : later.format.Hidden := ring_format.trans format ▸ Outline.KeyFormat.hidden_standard
    exact Outline.Sketches.batch_agrees (Template.withFilters ⟨document, settings, _, _⟩ filters) sketches
      hidden sketch ids_distinct plain distinct agree merged

/-- A conditional in a branch of another, a signal to stop in it, and a name that is bound
for the recipients as in the shared data. -/
theorem Template.merge_agrees_render_nested :
    let source := "{% if a %}x{% if b %}{{ b }}{% break %}{% endif %}y{% else %}{{ c }}{% endif %}!"
    let settings : Settings := { Settings.standard with selector := some (.ofNames ["a", "b"]) }
    let shared : Scope := ⟨[("c", .text "z")]⟩
    let recipients : Outline.Recipients :=
      ⟨[("a", [.bool true, .nil]), ("b", [.text "1", .nil]), ("c", [.text "z", .text "z"])]⟩
    ∃ template, Template.ofSource (Vocabulary.withBlocks []) settings source = .ok template ∧
      recipients.DistinctKeys ∧ recipients.AgreeWith settings.selector shared ∧
        (Template.merge { template.withFilters Render.standardFilters with
          ring := template.ring.takeAll [.halt] } shared recipients).1 = .ok ["x1", "z!"] ∧
          recipients.count = .ok 2 ∧
            ∀ index (less : index < 2),
              (template.withFilters Render.standardFilters).render
                (shared.overlay (recipients.scope index)) = .ok ["x1", "z!"][index] := by
  intro source settings shared recipients
  have evaluated : ((Template.ofSource (Vocabulary.withBlocks []) settings source).toOption.bind
      fun template => (Template.merge { template.withFilters Render.standardFilters with
        ring := template.ring.takeAll [.halt] } shared recipients).1.toOption) = some ["x1", "z!"] := by
    decide +kernel
  obtain ⟨template, parsed, merged⟩ := Option.bind_eq_some_iff.1 evaluated
  have parsed := Outline.eq_ok_of_toOption parsed
  have merged := Outline.eq_ok_of_toOption merged
  have distinct : recipients.DistinctKeys := by
    unfold Dict.DistinctKeys
    decide
  have agree : recipients.AgreeWith settings.selector shared := by
    intro name values found
    rcases List.mem_cons.1 (Dict.mem_pairs_of_find? found) with same | mem
    · exact .inl ⟨_, rfl, by rw [(Prod.mk.inj same).1]; decide⟩
    · rcases List.mem_cons.1 mem with same | mem
      · exact .inl ⟨_, rfl, by rw [(Prod.mk.inj same).1]; decide⟩
      · obtain ⟨rfl, rfl⟩ := Prod.mk.inj (List.mem_singleton.1 mem)
        exact .inr ⟨.text "z", rfl, by simp⟩
  exact ⟨template, parsed, distinct, agree, merged,
    merge_agrees_render parsed rfl Render.standardFilters [.halt] distinct agree merged⟩

end MailMerge
