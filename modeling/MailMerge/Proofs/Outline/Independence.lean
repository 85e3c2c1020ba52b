/-
# Recipients do not influence each other

A batch goes through its recipients in one loop over columns that all of them share, and
stops at the first failure. Still each text depends on the own values of its recipient
alone: it is what the outline comes to in the recipient's environment (`ownText`), and the
batch succeeds exactly if all of these exist (`batch_eq_ok_iff`). So recipients can be
rearranged, left out, repeated or merged one at a time, and the texts follow.

Nothing is assumed of the outline: this also holds for one whose keys coincide, or whose
sections never settle.
-/

import MailMerge.Proofs.Outline.Outcomes

namespace MailMerge
namespace Outline

open Render (Env)
open List (Forall₂)

/-! ### The text of one recipient -/

/-- **What an outline comes to in the environment of one recipient,** if all its
placeholders can be filled and the passes come to an end. -/
def ownText (outline : Outline) (env : Env) : Option String :=
  match cells outline.format env 0 outline.producers.entries with
  | .error _ => none
  | .ok row =>
    settle (longestFirst (outline.producers.keys.zip row))
      ((longestFirst outline.sectionTexts.pairs).map (·.1)) outline.halt
      (outline.sectionTexts.size + 2) outline.text
      ⟨outline.sectionTexts.pairs.filter fun body => !body.1.isEmpty⟩

section Cells

variable {format : KeyFormat} {env : Env}

/-- The number of a recipient is not read where nothing fails. -/
theorem cell_ok_other {producer : Producer} {index : Nat} {text : String}
    (filled : cell format env index producer = .ok text) (other : Nat) :
    cell format env other producer = .ok text := by
  rw [cell_eq] at filled ⊢
  generalize Render.settled env.strict (producer.render env) = value at filled ⊢
  match value, producer with
  | .error _, _ => cases filled
  | .ok _, .output _ => exact filled
  | .ok _, .choice _ => exact filled

theorem cells_ok_other {producers : List Producer} {index : Nat} {row : List String}
    (filled : FillsRow format (fun _ => env) producers index row) (other : Nat) :
    FillsRow format (fun _ => env) producers other row := by
  induction producers generalizing row with
  | nil => exact filled
  | cons producer rest ih =>
    obtain ⟨text, texts, rfl, first, others⟩ := filled.cons
    rw [FillsRow, cells_cons, cell_ok_other first other]
    dsimp only
    rw [ih others]

/-- A row has a text for every placeholder. -/
theorem FillsRow.length {env : Nat → Env} {producers : List Producer} {index : Nat}
    {row : List String} (filled : FillsRow format env producers index row) :
    row.length = producers.length := by
  induction producers generalizing row with
  | nil => exact congrArg List.length (Except.ok.inj filled).symm
  | cons producer rest ih =>
    obtain ⟨text, texts, rfl, -, others⟩ := filled.cons
    rw [List.length_cons, List.length_cons, ih others]

end Cells

/-! ### Rows and columns -/

/-- **Reading a row back from the columns.** -/
theorem entriesOf_columns {keys : List String} {found : List (List String)} {row : List String}
    {index : Nat} (full : ∀ row ∈ found, row.length = keys.length) (own : found[index]? = some row) :
    entriesOf (columns keys found) index = keys.zip row := by
  induction keys generalizing found row with
  | nil => rfl
  | cons key rest ih =>
    obtain ⟨less, same⟩ := List.getElem?_eq_some_iff.1 own
    have heads : found.filterMap List.head? = found.map fun row => row.head?.getD "" := by
      rw [← List.filterMap_eq_map]
      refine List.filterMap_congr fun row mem => ?_
      obtain ⟨text, texts, rfl⟩ := List.exists_cons_of_length_eq_add_one (full row mem)
      rfl
    have tails : ∀ row ∈ found.map List.tail, row.length = rest.length := by
      intro row mem
      obtain ⟨whole, inside, rfl⟩ := List.mem_map.1 mem
      rw [List.length_tail, full whole inside, List.length_cons, Nat.add_sub_cancel]
    obtain ⟨text, texts, rfl⟩ :=
      List.exists_cons_of_length_eq_add_one (full row (same ▸ List.getElem_mem less))
    rw [columns, entriesOf, List.map_cons, List.zip_cons_cons, heads, List.getElem?_map, own]
    refine congrArg _ (ih tails ?_)
    rw [List.getElem?_map, own]
    rfl

section Longest

variable {α β : Type} (f : α → β)

theorem insertByLength_map (item : String × α) (items : List (String × α)) :
    insertByLength (item.1, f item.2) (items.map fun item => (item.1, f item.2)) =
      (insertByLength item items).map fun item => (item.1, f item.2) := by
  induction items with
  | nil => rfl
  | cons other rest ih =>
    rw [List.map_cons, insertByLength, insertByLength, ih]
    split <;> rfl

/-- **The order of keys** does not depend on what stands under them. -/
theorem longestFirst_map (items : List (String × α)) :
    longestFirst (items.map fun item => (item.1, f item.2)) =
      (longestFirst items).map fun item => (item.1, f item.2) := by
  rw [longestFirst, longestFirst, List.filter_map]
  change List.foldr insertByLength [] (List.map _ (items.filter fun item => !item.1.isEmpty)) = _
  induction items.filter fun item => !item.1.isEmpty with
  | nil => rfl
  | cons item rest ih => rw [List.map_cons, List.foldr_cons, ih, insertByLength_map, List.foldr_cons]

end Longest

/-! ### A batch is its recipients -/

section Batch

variable {outline : Outline} {base : Env} {recipients : Recipients} {count : Nat}

/-- **Texts are made from rows one by one.** -/
theorem strings_columns_iff {found : List (List String)} {texts : List String}
    (filled : Forall₂ (FillsRow outline.format (fun index => base.enter (recipients.scope index))
      outline.producers.entries) (List.range count) found) :
    outline.strings ⟨columns outline.producers.keys found⟩ count = .ok texts ↔
      Forall₂ (fun index text => outline.ownText (base.enter (recipients.scope index)) = some text)
        (List.range count) texts := by
  have lengths : ∀ column ∈ columns outline.producers.keys found, column.2.length = count :=
    fun column mem => (length_of_columns filled column mem).trans List.length_range
  have full : ∀ row ∈ found, row.length = outline.producers.keys.length := by
    intro row mem
    obtain ⟨index, less, rfl⟩ := List.mem_iff_getElem.1 mem
    have row := filled.get (filled.length_eq ▸ less) less
    exact row.length.trans (by rw [Dict.entries, Dict.keys, List.length_map, List.length_map])
  rw [Outline.strings, fill, checkColumns_ok lengths]
  dsimp only
  rw [fillEach_eq_ok_iff, List.forall₂_iff_get, List.forall₂_iff_get]
  refine and_congr_right fun same => forall_congr' fun index => forall_congr' fun less =>
    forall_congr' fun _ => ?_
  have inside : index < found.length := filled.length_eq ▸ less
  have row := filled.get less inside
  have own := cells_ok_other row 0
  rw [FillsRow] at own
  have entries : entriesOf (longestFirst (columns outline.producers.keys found)) index =
      longestFirst (outline.producers.keys.zip found[index]) := by
    rw [← entriesOf_columns full (List.getElem?_eq_getElem inside)]
    exact (longestFirst_map (fun column : List String => column[index]?.getD "") _).symm
  simp only [List.get_eq_getElem, List.getElem_range] at own ⊢
  rw [settledText, entries, ownText, own]

/-- Whoever has a text has a row. -/
theorem exists_rows {indices : List Nat} {texts : List String}
    (own : Forall₂ (fun index text => outline.ownText (base.enter (recipients.scope index)) = some text)
      indices texts) :
    ∃ found, rows outline base recipients indices = .ok found := by
  induction own with
  | nil => exact ⟨[], rfl⟩
  | @cons index text _ _ first _ ih =>
    obtain ⟨found, others⟩ := ih
    rw [ownText] at first
    split at first
    · cases first
    · rename_i row filled
      have filled := cells_ok_other filled index
      rw [FillsRow] at filled
      exact ⟨row :: found, by rw [rows, filled, others]⟩

/-- **A batch is its recipients, each on its own.** -/
theorem batch_eq_ok_iff {texts : List String} (counted : recipients.count = .ok count) :
    outline.batch base recipients = .ok texts ↔
      Forall₂ (fun index text => outline.ownText (base.enter (recipients.scope index)) = some text)
        (List.range count) texts := by
  rw [Outline.batch, Outline.table, counted]
  dsimp only
  cases made : rows outline base recipients (List.range count) with
  | ok found => exact strings_columns_iff (rows_eq_ok_iff.1 made)
  | error fault =>
    refine ⟨fun h => (by cases h), fun own => ?_⟩
    obtain ⟨found, filled⟩ := exists_rows own
    cases made.symm.trans filled

end Batch

/-! ### Some of the recipients -/

/-- **The recipients with the given numbers,** in this order and as often as they are listed. -/
def Recipients.pick (recipients : Recipients) (indices : List Nat) : Recipients :=
  recipients.mapEntries fun values => indices.map fun index => values[index]?.getD .nil

namespace Recipients

variable {recipients : Recipients} {indices : List Nat}

/-- Picking a recipient keeps the own values. -/
theorem scope_pick {position index : Nat} (own : indices[position]? = some index) :
    (recipients.pick indices).scope position = recipients.scope index := by
  rw [scope, pick, scope, Dict.mapEntries, Dict.mapEntries, Dict.mapEntries, List.map_map]
  refine congrArg Dict.mk (List.map_congr_left fun column _ => ?_)
  simp [List.getElem?_map, own]

/-- Whoever is picked is counted. -/
theorem count_pick (bound : recipients.pairs ≠ []) (listed : indices ≠ []) :
    (recipients.pick indices).count = .ok indices.length := by
  refine count_ok ?_ (fun column mem => ?_) (List.length_pos_iff.2 listed)
  · exact fun none => bound (List.map_eq_nil_iff.1 none)
  · obtain ⟨own, -, rfl⟩ := List.mem_map.1 mem
    exact List.length_map ..

end Recipients

section Pick

variable {outline : Outline} {base : Env} {recipients : Recipients}

/-- **A batch of some of the recipients** is each of them on their own. -/
theorem batch_pick_iff {indices : List Nat} {texts : List String} (bound : recipients.pairs ≠ [])
    (listed : indices ≠ []) :
    outline.batch base (recipients.pick indices) = .ok texts ↔
      Forall₂ (fun index text => outline.ownText (base.enter (recipients.scope index)) = some text)
        indices texts := by
  rw [batch_eq_ok_iff (Recipients.count_pick bound listed), List.forall₂_iff_get,
    List.forall₂_iff_get]
  refine and_congr (by rw [List.length_range]) ⟨?_, ?_⟩
  · intro each position less inside
    have own := each position (by rwa [List.length_range]) inside
    rwa [List.get_eq_getElem, List.getElem_range,
      Recipients.scope_pick (List.getElem?_eq_getElem less)] at own
  · intro each position less inside
    have listed : position < indices.length := by rwa [List.length_range] at less
    rw [List.get_eq_getElem, List.getElem_range,
      Recipients.scope_pick (List.getElem?_eq_getElem listed)]
    exact each position listed inside

/-- Whoever all have a text have texts. -/
theorem forall₂_some_iff {find : Nat → Option String} {indices : List Nat} {texts : List String} :
    Forall₂ (fun index text => find index = some text) indices texts ↔
      (∀ index ∈ indices, ∃ text, find index = some text) ∧
        texts = indices.map fun index => (find index).getD "" := by
  constructor
  · intro own
    induction own with
    | nil => exact ⟨fun _ mem => (List.not_mem_nil mem).elim, rfl⟩
    | cons first _ ih =>
      obtain ⟨others, rfl⟩ := ih
      exact ⟨List.forall_mem_cons.2 ⟨⟨_, first⟩, others⟩, by rw [List.map_cons, first, Option.getD_some]⟩
  · rintro ⟨each, rfl⟩
    refine List.forall₂_map_right_iff.2 (List.forall₂_same.2 fun index mem => ?_)
    obtain ⟨text, own⟩ := each index mem
    rw [own, Option.getD_some]

/-- **One recipient on their own.** -/
theorem batch_pick_one {index : Nat} {texts : List String} (bound : recipients.pairs ≠ []) :
    outline.batch base (recipients.pick [index]) = .ok texts ↔
      ∃ text, outline.ownText (base.enter (recipients.scope index)) = some text ∧ texts = [text] := by
  rw [batch_pick_iff bound (List.cons_ne_nil _ _)]
  constructor
  · rintro (_ | ⟨own, ⟨⟩⟩)
    exact ⟨_, own, rfl⟩
  · rintro ⟨text, own, rfl⟩
    exact .cons own .nil

/-- **Recipients do not influence each other.** For recipients in a rectangle, whatever the
outline and the environment: a batch succeeds exactly if it does for every recipient alone,
and each recipient has alone the text that stands in the batch. So if some recipients are
picked, in any order and any of them more than once, the batch of them succeeds exactly if
it does for each of them alone, and their texts are picked from those of the batch. -/
theorem batch_independent {count : Nat} (bound : recipients.pairs ≠ [])
    (lengths : ∀ column ∈ recipients.pairs, column.2.length = count) (least : 0 < count) :
    ((∃ texts, outline.batch base recipients = .ok texts) ↔
        ∀ index < count, ∃ own, outline.batch base (recipients.pick [index]) = .ok own) ∧
      (∀ texts, outline.batch base recipients = .ok texts → texts.length = count ∧
        ∀ index (less : index < texts.length),
          outline.batch base (recipients.pick [index]) = .ok [texts[index]]) ∧
      ∀ indices, indices ≠ [] → (∀ index ∈ indices, index < count) →
        ((∃ texts, outline.batch base (recipients.pick indices) = .ok texts) ↔
          ∀ index ∈ indices, ∃ own, outline.batch base (recipients.pick [index]) = .ok own) ∧
        ∀ texts, outline.batch base recipients = .ok texts →
          outline.batch base (recipients.pick indices) =
            .ok (indices.map fun index => texts[index]?.getD "") := by
  have counted := Recipients.count_ok bound lengths least
  have alone : ∀ index, (∃ own, outline.batch base (recipients.pick [index]) = .ok own) ↔
      ∃ text, outline.ownText (base.enter (recipients.scope index)) = some text := by
    intro index
    simp only [batch_pick_one bound]
    exact ⟨fun ⟨_, text, own, _⟩ => ⟨text, own⟩, fun ⟨text, own⟩ => ⟨_, text, own, rfl⟩⟩
  refine ⟨?_, fun texts merged => ?_, fun indices listed inside => ⟨?_, fun texts merged => ?_⟩⟩
  · simp only [alone, batch_eq_ok_iff counted, forall₂_some_iff, List.mem_range]
    exact ⟨fun ⟨_, each, _⟩ => each, fun each => ⟨_, each, rfl⟩⟩
  · have own := (batch_eq_ok_iff counted).1 merged
    refine ⟨own.length_eq.symm.trans List.length_range, fun index less => ?_⟩
    have text := own.get (own.length_eq ▸ less) less
    rw [List.get_eq_getElem, List.getElem_range] at text
    exact (batch_pick_one bound).2 ⟨_, text, rfl⟩
  · simp only [alone, batch_pick_iff bound listed, forall₂_some_iff]
    exact ⟨fun ⟨_, each, _⟩ => each, fun each => ⟨_, each, rfl⟩⟩
  · obtain ⟨each, rfl⟩ := forall₂_some_iff.1 ((batch_eq_ok_iff counted).1 merged)
    refine (batch_pick_iff bound listed).2 (forall₂_some_iff.2
      ⟨fun index mem => each index (List.mem_range.2 (inside index mem)), ?_⟩)
    refine List.map_congr_left fun index mem => ?_
    simp [inside index mem]

end Pick

/-- Two recipients, one of them picked twice and the other between. -/
theorem batch_independent_repeated :
    let source := "{% if a %}{{ b }}{% else %}-{% endif %}"
    let env := { Env.ofFilters Render.standardFilters with selector := some (.ofNames ["a", "b"]) }
    let recipients : Recipients := ⟨[("a", [.bool true, .bool false]), ("b", [.text "x", .text "y"])]⟩
    ∃ document outline, Tree.Document.ofSource (Tree.Vocabulary.withBlocks []) source = .ok document ∧
      (ofDocument document env (.ofFormat .standard)).1 = .ok outline ∧
      outline.batch env recipients = .ok ["x", "-"] ∧
      outline.batch env (recipients.pick [1]) = .ok ["-"] ∧
      outline.batch env (recipients.pick [1, 0, 1]) = .ok ["-", "x", "-"] := by
  intro source env recipients
  have evaluated : ((Tree.Document.ofSource (Tree.Vocabulary.withBlocks []) source).toOption.bind
      fun document => (ofDocument document env (.ofFormat .standard)).1.toOption.bind
        fun outline => (outline.batch env recipients).toOption.map (outline, ·)).map (·.2) =
          some ["x", "-"] := by
    decide +kernel
  obtain ⟨⟨outline, texts⟩, found, rfl⟩ := Option.map_eq_some_iff.1 evaluated
  obtain ⟨document, parsed, found⟩ := Option.bind_eq_some_iff.1 found
  obtain ⟨own, drawn, found⟩ := Option.bind_eq_some_iff.1 found
  obtain ⟨texts, merged, same⟩ := Option.map_eq_some_iff.1 found
  obtain ⟨rfl, rfl⟩ := Prod.mk.inj same
  have merged := eq_ok_of_toOption merged
  obtain ⟨-, alone, picked⟩ := @batch_independent own env recipients 2 (by decide) (by decide) (by decide)
  exact ⟨document, own, eq_ok_of_toOption parsed, eq_ok_of_toOption drawn, merged,
    (alone _ merged).2 1 (by decide), (picked [1, 0, 1] (by decide) (by decide)).2 _ merged⟩

end Outline
end MailMerge
