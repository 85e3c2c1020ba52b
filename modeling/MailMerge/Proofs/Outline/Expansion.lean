/-
# Expanding an outline

The text of a recipient can be read off an outline and the recipient's cells without
any key being searched for: text stands as it is, an output gives way to its cell, a
choice to the section that its cell names or else to its cell, and everything ends at
the mark where all output stops.

Replacing keys comes to the same text where keys are told apart and no fault that a
choice reports holds the opening mark of keys.
-/

import MailMerge.Proofs.Outline.Strings
import MailMerge.Template

namespace MailMerge

open MailMerge.Tree (Vocabulary)
open Render (Env Scope FilterSet)

/-- **A template of a source:** its tree, with the settings and no keys handed out. -/
theorem Template.ofSource_eq_ok {vocabulary : Vocabulary} {settings : Settings} {source : String}
    {template : Template} (h : Template.ofSource vocabulary settings source = .ok template) :
    ∃ document, Tree.Document.ofSource vocabulary source = .ok document ∧
      template = ⟨document, settings, Render.standardFilters, .ofFormat settings.format⟩ := by
  rw [Template.ofSource] at h
  cases parsed : Tree.Document.ofSource vocabulary source with
  | error fault => rw [parsed] at h; cases h
  | ok document =>
    rw [parsed] at h
    exact ⟨document, rfl, (Except.ok.inj h).symm⟩

namespace Outline

section Expands

variable {sections : Dict (List Fragment)} {cell : String → String}

/-- **What fragments expand to,** and whether all output has ended in them. -/
inductive Expands (sections : Dict (List Fragment)) (cell : String → String) :
    List Fragment → Filled → Prop
  | nil : Expands sections cell [] ("", false)
  | literal (text : String) {rest : List Fragment} {filled : Filled}
      (others : Expands sections cell rest filled) :
      Expands sections cell (.literal text :: rest) (text ++ filled.1, filled.2)
  | output (key : String) {rest : List Fragment} {filled : Filled}
      (others : Expands sections cell rest filled) :
      Expands sections cell (.output key :: rest) (cell key ++ filled.1, filled.2)
  /-- The cell names no section: nothing is shown, or a fault is. -/
  | hidden {key : String} (unnamed : sections.find? (cell key) = none) {rest : List Fragment}
      {filled : Filled} (others : Expands sections cell rest filled) :
      Expands sections cell (.choice key :: rest) (cell key ++ filled.1, filled.2)
  /-- The cell names a section, which is shown and goes on. -/
  | shown {key : String} {body : List Fragment} (named : sections.find? (cell key) = some body)
      {text : String} (inside : Expands sections cell body (text, false)) {rest : List Fragment}
      {filled : Filled} (others : Expands sections cell rest filled) :
      Expands sections cell (.choice key :: rest) (text ++ filled.1, filled.2)
  /-- The cell names a section in which all output ends. -/
  | ended {key : String} {body : List Fragment} (named : sections.find? (cell key) = some body)
      {text : String} (inside : Expands sections cell body (text, true)) (rest : List Fragment) :
      Expands sections cell (.choice key :: rest) (text, true)
  | halt (key : String) (rest : List Fragment) :
      Expands sections cell (.halt key :: rest) ("", true)

/-- **Fragments expand in one way.** -/
theorem Expands.unique {fragments : List Fragment} {first second : Filled}
    (h : Expands sections cell fragments first) (h' : Expands sections cell fragments second) :
    first = second := by
  induction h generalizing second with
  | nil => cases h'; rfl
  | literal text _ ih =>
    cases h' with
    | literal _ others => rw [ih others]
  | output key _ ih =>
    cases h' with
    | output _ others => rw [ih others]
  | hidden unnamed _ ih =>
    cases h' with
    | hidden _ others => rw [ih others]
    | shown named => rw [unnamed] at named; cases named
    | ended named => rw [unnamed] at named; cases named
  | shown named _ _ inside others =>
    cases h' with
    | hidden unnamed => rw [unnamed] at named; cases named
    | shown named' inside' others' =>
      obtain rfl := Option.some.inj (named.symm.trans named')
      obtain ⟨rfl, -⟩ := Prod.mk.inj (inside inside')
      rw [others others']
    | ended named' inside' =>
      obtain rfl := Option.some.inj (named.symm.trans named')
      cases inside inside'
  | ended named _ _ inside =>
    cases h' with
    | hidden unnamed => rw [unnamed] at named; cases named
    | shown named' inside' =>
      obtain rfl := Option.some.inj (named.symm.trans named')
      cases inside inside'
    | ended named' inside' =>
      obtain rfl := Option.some.inj (named.symm.trans named')
      exact inside inside'
  | halt key rest => cases h'; rfl

/-- What follows a fragment may be replaced by what expands to the same. -/
theorem Expands.rest {first : Fragment} {rest others : List Fragment} {filled : Filled}
    (h : Expands sections cell (first :: rest) filled)
    (same : ∀ filled, Expands sections cell rest filled → Expands sections cell others filled) :
    Expands sections cell (first :: others) filled := by
  cases h with
  | literal text h => exact .literal text (same _ h)
  | output key h => exact .output key (same _ h)
  | hidden unnamed h => exact .hidden unnamed (same _ h)
  | shown named inside h => exact .shown named inside (same _ h)
  | ended named inside rest => exact .ended named inside others
  | halt key rest => exact .halt key others

/-- Adding a fragment, joined to text before it, does not change what fragments expand to. -/
theorem Expands.push (fragments : List Fragment) (fragment : Fragment) (rest : List Fragment)
    {filled : Filled} (h : Expands sections cell (fragments ++ fragment :: rest) filled) :
    Expands sections cell (pushFragment fragments fragment ++ rest) filled := by
  fun_induction pushFragment fragments fragment generalizing filled with
  | case1 => exact h
  | case2 text more =>
    cases h with
    | literal _ h =>
      cases h with
      | literal _ h =>
        rw [← String.append_assoc]
        exact .literal (text ++ more) h
  | case3 first others fragment _ ih => exact h.rest fun _ others => ih others

/-- **Joining text** does not change what fragments expand to. -/
theorem Expands.joinLiterals {fragments : List Fragment} {filled : Filled}
    (h : Expands sections cell fragments filled) :
    Expands sections cell (joinLiterals fragments) filled := by
  have general : ∀ rest before : List Fragment, Expands sections cell (before ++ rest) filled →
      Expands sections cell (rest.foldl pushFragment before) filled := by
    intro rest
    induction rest with
    | nil =>
      intro before h
      rwa [List.append_nil] at h
    | cons first rest ih => exact fun before h => ih _ (h.push before first rest)
  exact general fragments [] h

end Expands

/-! ### A sketch expands to what it is filled in to -/

section Sketch

variable {ring : Keyring} {pieces : List Piece} {sections : Dict (List Fragment)} {cell : String → String}

/-- **Parts expand** to what they are filled in to. -/
theorem expands_parts (ring : Keyring) (sections : Dict (List Fragment)) (cell : String → String)
    (parts : List Part) :
    Expands sections cell (parts.map (Part.fragment ring))
      (fillParts (fun slot => cell (ring.keyOf slot)) parts) := by
  induction parts with
  | nil => exact .nil
  | cons part rest ih =>
    rw [List.map_cons, fillParts]
    cases part with
    | literal text => exact .literal text ih
    | output source => exact .output _ ih
    | halt => exact .halt _ _

/-- **A sketch expands** to what it is filled in to, if every passage has its section and
no other entry of a choice names one. -/
theorem expands_pieces
    (named : ∀ passage, .passage passage ∈ pieces →
      sections.find? (ring.keyOf passage.bodySlot) = some (passage.body ring))
    (unnamed : ∀ passage, .passage passage ∈ pieces →
      cell (ring.keyOf passage.choiceSlot) = ring.keyOf passage.bodySlot ∨
        sections.find? (cell (ring.keyOf passage.choiceSlot)) = none) :
    Expands sections cell (fragmentsOf ring pieces)
      (fillPieces ring (fun slot => cell (ring.keyOf slot)) pieces) := by
  refine Expands.joinLiterals ?_
  induction pieces with
  | nil => exact .nil
  | cons piece rest ih =>
    have others := ih (fun passage mem => named passage (List.mem_cons_of_mem _ mem))
      fun passage mem => unnamed passage (List.mem_cons_of_mem _ mem)
    rw [List.map_cons, fillPieces]
    cases piece with
    | part own =>
      cases own with
      | literal text => exact .literal text others
      | output source => exact .output _ others
      | halt => exact .halt _ _
    | passage own =>
      rw [fillPiece, fillPassage]
      by_cases chosen : cell (ring.keyOf own.choiceSlot) = ring.keyOf own.bodySlot
      · have found : sections.find? (cell (ring.keyOf own.choiceSlot)) = some (own.body ring) :=
          chosen ▸ named own List.mem_cons_self
        have inside := (expands_parts ring sections cell own.parts).joinLiterals
        rw [if_pos chosen]
        generalize fillParts _ own.parts = filled at inside ⊢
        obtain ⟨text, ends⟩ := filled
        cases ends with
        | false => exact .shown found inside others
        | true => exact .ended found inside _
      · rw [if_neg chosen]
        exact .hidden ((unnamed own List.mem_cons_self).resolve_left chosen) others

end Sketch

/-! ### Replacing keys is expanding -/

/-- **No fault in a choice holds the opening mark of keys:** for every recipient the entry of
a choice is the key of its section, or text without the mark. -/
def CleanChoices (outline : Outline) (table : Table) (count : Nat) : Prop :=
  ∀ key choice, outline.producers.find? key = some (.choice choice) → ∀ index < count,
    table.entryOf index key = choice.body ∨
      Text.contains (table.entryOf index key) outline.format.opening = false

/-- **The texts of the recipients are the outline expanded,** one for each of them. -/
def StringsExpand (outline : Outline) (table : Table) (count : Nat) : Prop :=
  ∃ texts, outline.strings table count = .ok texts ∧ texts.length = count ∧
    ∀ index < count, ∃ text ends, texts[index]? = some text ∧
      Expands outline.sections (table.entryOf index) outline.fragments (text, ends)

/-- **Replacing keys expands outlines** with a key format: those of all templates with the
standard tags and plain blocks, whatever their settings, filters and data are, when the keys
in `known` have been handed out before and the table is `clean`. -/
def KeyFormat.ExpandsWhere (clean : Outline → Table → Nat → Prop) (format : KeyFormat)
    (known : List Slot) : Prop :=
  ∀ (names : List String) (source : String) (settings : Settings) (filters : FilterSet)
    (template : Template) (shared : Scope) (outline : Outline) (recipients : Recipients)
    (count : Nat) (table : Table),
    settings.format = format →
    Template.ofSource (Vocabulary.withBlocks names) settings source = .ok template →
    (Template.outline { template.withFilters filters with ring := template.ring.takeAll known }
      shared).1 = .ok outline →
    recipients.count = .ok count →
    (template.withFilters filters).table outline shared recipients = .ok table →
    clean outline table count → StringsExpand outline table count

/-- **A faithful key format** expands outlines as long as no fault in a choice holds the
opening mark of keys. -/
def KeyFormat.Faithful (format : KeyFormat) (known : List Slot) : Prop :=
  format.ExpandsWhere CleanChoices known

/-- **A key format that is always faithful** expands outlines whatever faults there are. -/
def KeyFormat.AlwaysFaithful (format : KeyFormat) (known : List Slot) : Prop :=
  format.ExpandsWhere (fun _ _ _ => True) known

theorem KeyFormat.contains_key (format : KeyFormat) (number : Nat) :
    Text.contains (format.key number) format.opening = true := by
  rw [Text.contains_iff, format.toList_key]
  exact (List.prefix_append ..).isInfix

/-- The slot of an output is that of a part of a piece. -/
theorem output_of_mem_slotsIn {pieces : List Piece} {id : Nat} (mem : .output id ∈ slotsIn pieces) :
    ∃ piece ∈ pieces, ∃ source, .output source ∈ piece.parts ∧ source.id = id := by
  have ofPart : ∀ part : Part, Slot.output id ∈ part.slots → ∃ source, part = .output source ∧
      source.id = id := by
    intro part found
    cases part with
    | output source => exact ⟨source, rfl, (Slot.output.inj (List.mem_singleton.1 found)).symm⟩
    | _ => exact (List.not_mem_nil found).elim
  obtain ⟨piece, hpiece, found⟩ := List.mem_flatMap.1 mem
  refine ⟨piece, hpiece, ?_⟩
  cases piece with
  | part own =>
    obtain ⟨source, rfl, same⟩ := ofPart own found
    exact ⟨source, List.mem_singleton_self _, same⟩
  | passage own =>
    rcases List.mem_cons.1 found with same | found
    · cases same
    · rcases List.mem_cons.1 found with same | found
      · cases same
      · obtain ⟨part, hpart, found⟩ := List.mem_flatMap.1 found
        obtain ⟨source, rfl, same⟩ := ofPart part found
        exact ⟨source, hpart, same⟩

/-- The text of an output does not hold the opening mark of keys. -/
theorem cell_output {format : KeyFormat} {env : Env} {index : Nat} {source : Tree.Output} {text : String}
    (h : cell format env index (.output source) = .ok text) :
    Text.contains text format.opening = false := by
  unfold cell fillCell at h
  split at h
  rename_i filled after _
  cases filled with
  | error fault => cases h
  | ok found =>
    dsimp only at h
    split at h
    · cases h
    · rename_i none
      obtain rfl := Except.ok.inj h
      exact Bool.eq_false_iff.2 none

namespace Sketches

variable {ring : Keyring} {outline : Outline} {pieces : List Piece} (h : Sketches ring outline pieces)

include h

/-- What fills a choice is what the passage says. -/
theorem find?_choice {passage : Passage} (mem : .passage passage ∈ pieces) :
    outline.producers.find? (ring.keyOf passage.choiceSlot) = some (.choice (passage.choice ring)) :=
  h.find?_producers.2 (mem_producersIn_choice.2 ⟨passage, mem, rfl, rfl⟩)

/-- What stands in a section is what the passage says. -/
theorem find?_section {passage : Passage} (mem : .passage passage ∈ pieces) :
    outline.sections.find? (ring.keyOf passage.bodySlot) = some (passage.body ring) := by
  rw [Dict.find?_eq_some_iff h.distinct_sections, h.sections.mem_iff]
  exact mem_sectionsIn.2 ⟨passage, mem, rfl, rfl⟩

/-- Every key of a section holds the opening mark of keys. -/
theorem contains_section_key {key : String} {body : List Fragment}
    (found : outline.sections.find? key = some body) :
    Text.contains key outline.format.opening = true := by
  have mem : key ∈ outline.sections.keys := Dict.mem_keys_iff.2 ⟨body, Dict.mem_pairs_of_find? found⟩
  obtain ⟨passage, hpassage, rfl⟩ := h.mem_section_keys.1 mem
  rw [h.regular.keyOf_eq (h.keyed.has _ (Keyed.bodySlot_mem hpassage)), h.format]
  exact KeyFormat.contains_key _ _

/-- **Entries in which no key can be mistaken,** if no fault in a choice holds the opening
mark of keys; entries of outputs have been checked for it. -/
theorem cleanEntries {mark : Char} (separable : ring.format.SeparableBy mark) {base : Env}
    {recipients : Recipients} {count : Nat} {table : Table}
    (made : TableOf outline base recipients count table) (clean : CleanChoices outline table count)
    {index : Nat} (less : index < count) :
    CleanEntries mark ring pieces (table.slotEntry ring index) where
  output id mem := by
    obtain ⟨piece, hpiece, source, hsource, rfl⟩ := output_of_mem_slotsIn mem
    have registered : (ring.keyOf (.output source.id), Producer.output source) ∈ outline.producers.pairs :=
      h.producers.mem_iff.2 (mem_producersIn_output.2 ⟨piece, hpiece, hsource, rfl⟩)
    have none := cell_output (made.entry _ _ registered index less)
    rw [h.format] at none
    exact separable.harmless_of_not_contains none
  choice passage mem := by
    refine (clean _ _ (h.find?_choice mem) index less).imp_right fun none => ?_
    rw [h.format] at none
    exact separable.harmless_of_not_contains none

/-- **The texts of the recipients are the outline expanded,** where keys are told apart. -/
theorem stringsExpand {mark : Char} (separable : ring.format.SeparableBy mark)
    (sound : ∀ piece ∈ pieces, piece.Sound ring.format) {base : Env} {recipients : Recipients}
    {count : Nat} {table : Table} (made : TableOf outline base recipients count table)
    (clean : CleanChoices outline table count) : StringsExpand outline table count := by
  have strings := h.strings separable sound made.keys made.lengths fun index less =>
    h.cleanEntries separable made clean less
  refine ⟨_, strings, by rw [List.length_map, List.length_range], fun index less => ?_⟩
  refine ⟨_, (fillPieces ring (table.slotEntry ring index) pieces).2,
    by rw [List.getElem?_map, List.getElem?_range less]; rfl, ?_⟩
  rw [h.fragments]
  refine expands_pieces (fun passage mem => h.find?_section mem) fun passage mem => ?_
  refine (clean _ _ (h.find?_choice mem) index less).imp_right fun none => ?_
  cases found : outline.sections.find? (table.entryOf index (ring.keyOf passage.choiceSlot)) with
  | none => rfl
  | some body =>
    have contains := h.contains_section_key found
    rw [none] at contains
    cases contains

end Sketches

/-- **Where keys are told apart outlines are expanded,** if a table that is clean has no
fault in a choice that holds the opening mark. -/
theorem KeyFormat.SeparableBy.expandsWhere {format : KeyFormat} {mark : Char}
    (separable : format.SeparableBy mark) {clean : Outline → Table → Nat → Prop}
    (cleans : ∀ {outline base recipients count table}, outline.format = format →
      TableOf outline base recipients count table → clean outline table count →
        CleanChoices outline table count) (known : List Slot) :
    format.ExpandsWhere clean known := by
  intro names source settings filters template shared outline recipients count table hformat parsed
    drawn counted made clean
  obtain ⟨document, hdocument, rfl⟩ := Template.ofSource_eq_ok parsed
  subst hformat
  obtain ⟨⟨size, ids⟩, -⟩ := Tree.Document.ids_ofSource (Tree.Vocabulary.plain_withBlocks names) hdocument
  have distinct : document.ids.Nodup := ids ▸ List.nodup_range
  have regular := (Keyring.regular_ofFormat settings.format).takeAll known
  obtain ⟨later, pieces, sketch, format, sketches⟩ := sketches_ofDocument regular distinct drawn
  rw [Keyring.takeAll_format] at format sketch
  have sound := sound_sketchAll document.nodes _ pieces sketch
  have separable : later.format.SeparableBy mark := format ▸ separable
  have tabled := tableOf_table sketches.distinct_producers counted made
  exact sketches.stringsExpand separable (format ▸ sound) tabled
    (cleans (sketches.format.trans format) tabled clean)

/-- **Where keys are told apart the format is faithful.** -/
theorem KeyFormat.Separable.faithful {format : KeyFormat} (h : format.Separable) (known : List Slot) :
    format.Faithful known := by
  obtain ⟨mark, separable⟩ := h
  exact separable.expandsWhere (fun _ _ clean => clean) known

end Outline
end MailMerge
