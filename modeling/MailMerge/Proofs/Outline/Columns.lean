/-
# The columns of a table

A table that could be made has a column for every placeholder, with an entry for
every recipient: what the placeholder comes to in the recipient's environment. The faults
that placeholders before it left in that environment make no difference.
-/

import Mathlib.Data.List.Forall2
import MailMerge.Outline.Table
import MailMerge.Proofs.DictPairs
import MailMerge.Proofs.Render.Reading

namespace MailMerge
namespace Outline

open Render (Env SameData)
open List (Forall₂)

/-! ### Going through a list -/

/-- **Going through a list succeeds** with the values of its items. -/
theorem mapM_eq_ok_iff {α β ε : Type} {f : α → Except ε β} {items : List α} {values : List β} :
    items.mapM f = .ok values ↔ Forall₂ (fun item value => f item = .ok value) items values := by
  constructor
  · intro done
    induction items generalizing values with
    | nil =>
      obtain rfl := Except.ok.inj done
      exact .nil
    | cons item rest ih =>
      rw [List.mapM_cons] at done
      cases own : f item with
      | error fault =>
        rw [own] at done
        cases done
      | ok value =>
        rw [own] at done
        cases others : rest.mapM f with
        | error fault =>
          rw [others] at done
          cases done
        | ok more =>
          rw [others] at done
          obtain rfl := Except.ok.inj done
          exact .cons own (ih others)
  · intro each
    induction each with
    | nil => rfl
    | cons own _ ih =>
      rw [List.mapM_cons, own, ih]
      rfl

/-- Going through a list succeeds if it does for every item, and only then. -/
theorem exists_mapM_eq_ok_iff {α β ε : Type} {f : α → Except ε β} {items : List α} :
    (∃ values, items.mapM f = .ok values) ↔ ∀ item ∈ items, ∃ value, f item = .ok value := by
  constructor
  · rintro ⟨values, done⟩
    induction mapM_eq_ok_iff.1 done with
    | nil => exact fun _ mem => (List.not_mem_nil mem).elim
    | cons own others ih => exact List.forall_mem_cons.2 ⟨⟨_, own⟩, ih (mapM_eq_ok_iff.2 others)⟩
  · intro each
    induction items with
    | nil => exact ⟨[], rfl⟩
    | cons item rest ih =>
      obtain ⟨⟨value, own⟩, others⟩ := List.forall_mem_cons.1 each
      obtain ⟨values, done⟩ := ih others
      exact ⟨value :: values, mapM_eq_ok_iff.2 (.cons own (mapM_eq_ok_iff.1 done))⟩

/-- **Going through a list fails at the first item that fails.** -/
theorem mapM_eq_error {α β ε : Type} {f : α → Except ε β} {items : List α} {fault : ε}
    (failed : items.mapM f = .error fault) :
    ∃ before item after, items = before ++ item :: after ∧ f item = .error fault ∧
      ∀ other ∈ before, ∃ value, f other = .ok value := by
  induction items with
  | nil => cases failed
  | cons item rest ih =>
    rw [List.mapM_cons] at failed
    cases own : f item with
    | error other =>
      rw [own] at failed
      obtain rfl := Except.error.inj failed
      exact ⟨[], item, rest, rfl, own, fun _ mem => (List.not_mem_nil mem).elim⟩
    | ok value =>
      rw [own] at failed
      cases others : rest.mapM f with
      | ok values =>
        rw [others] at failed
        cases failed
      | error other =>
        rw [others] at failed
        obtain rfl := Except.error.inj failed
        obtain ⟨before, first, after, rfl, first_failed, fine⟩ := ih others
        exact ⟨item :: before, first, after, rfl, first_failed,
          List.forall_mem_cons.2 ⟨⟨value, own⟩, fine⟩⟩

/-- Going through numbers in order fails at the least that fails. -/
theorem mapM_range_eq_error {β ε : Type} {f : Nat → Except ε β} {count : Nat} {fault : ε}
    (failed : (List.range count).mapM f = .error fault) :
    ∃ index < count, f index = .error fault ∧ ∀ earlier < index, ∃ value, f earlier = .ok value := by
  obtain ⟨before, index, after, range, own, fine⟩ := mapM_eq_error failed
  rw [List.range_eq_range'] at range
  obtain ⟨length, least, rfl, rest⟩ := List.range'_eq_append_iff.1 range
  obtain ⟨same, more, -⟩ := List.range'_eq_cons_iff.1 rest.symm
  exact ⟨index, by omega, own, fun earlier less => fine earlier (List.mem_range'_1.2 (by omega))⟩

/-! ### Placeholders one after the other -/

section Filling

variable {first second : Env} (h : SameData first second)

include h

theorem Guard.check_same (guard : Guard) : guard.check second = guard.check first := by
  unfold Guard.check
  induction guard.terms with
  | nil => rfl
  | cons term rest ih =>
    have own := Render.evalCondition_agree term.condition.predicate (h.agreesOn _).get
    rw [Guard.checkTerms, Guard.checkTerms, own, ih]

/-- **A producer reads the data of an environment** and nothing else of it. -/
theorem Producer.render_same (producer : Producer) : producer.render second = producer.render first := by
  cases producer with
  | output source =>
    have value := Render.evalPipeline_agree source.expr source.filters (h.agreesOn _)
    rw [Producer.render, Producer.render, value]
  | choice source =>
    rw [Producer.render, Producer.render, Choice.render, Choice.render, source.guard.check_same h]

theorem cell_same (format : KeyFormat) (index : Nat) (producer : Producer) :
    cell format second index producer = cell format first index producer := by
  unfold cell fillCell
  rw [producer.render_same h]
  cases producer.render first with
  | ok text => cases producer <;> rfl
  | error fault =>
    have contained := h.contain_fst fault
    dsimp only
    generalize first.contain fault = own, second.contain fault = other at contained ⊢
    obtain ⟨filled, after⟩ := own
    obtain ⟨filled', after'⟩ := other
    obtain rfl : filled' = filled := contained
    cases filled' <;> cases producer <;> rfl

end Filling

/-- Filling a placeholder keeps the data of the environment. -/
theorem sameData_fillCell (format : KeyFormat) (env : Env) (index : Nat) (producer : Producer) :
    SameData env (fillCell format env index producer).2 := by
  unfold fillCell
  cases producer.render env with
  | ok text => cases producer <;> exact ⟨rfl, rfl, fun _ => rfl⟩
  | error fault =>
    have contained := Render.sameData_contain env fault
    dsimp only
    generalize env.contain fault = found at contained ⊢
    obtain ⟨filled, after⟩ := found
    cases filled <;> cases producer <;> exact contained

/-- **Faults from before make no difference** to the placeholders of a recipient. -/
theorem cells_same {first second : Env} (h : SameData first second) (format : KeyFormat) (index : Nat)
    (producers : List Producer) :
    cells format second index producers = cells format first index producers := by
  induction producers generalizing first second with
  | nil => rfl
  | cons producer rest ih =>
    have own := cell_same h format index producer
    have before := sameData_fillCell format first index producer
    have later := sameData_fillCell format second index producer
    unfold cell at own
    rw [cells, cells]
    generalize fillCell format first index producer = found,
      fillCell format second index producer = found' at own before later ⊢
    obtain ⟨filled, after⟩ := found
    obtain ⟨filled', after'⟩ := found'
    obtain rfl : filled' = filled := own
    cases filled' with
    | error fault => rfl
    | ok text =>
      have others := ih (before.symm.trans (h.trans later))
      dsimp only at others ⊢
      rw [others]

/-- **The placeholders of a recipient are filled each on its own.** -/
theorem cells_cons (format : KeyFormat) (env : Env) (index : Nat) (producer : Producer)
    (producers : List Producer) :
    cells format env index (producer :: producers) =
      match cell format env index producer with
      | .error fault => .error fault
      | .ok text =>
        match cells format env index producers with
        | .error fault => .error fault
        | .ok texts => .ok (text :: texts) := by
  have later := cells_same (sameData_fillCell format env index producer) format index producers
  rw [cells, cell]
  generalize fillCell format env index producer = found at later ⊢
  obtain ⟨filled, after⟩ := found
  cases filled with
  | error fault => rfl
  | ok text =>
    dsimp only at later ⊢
    generalize cells format after index producers = others at later ⊢
    subst later
    rfl

/-- The placeholders of a recipient are gone through in order. -/
theorem cells_eq_mapM (format : KeyFormat) (env : Env) (index : Nat) (producers : List Producer) :
    cells format env index producers = producers.mapM (cell format env index) := by
  induction producers with
  | nil => rfl
  | cons producer rest ih =>
    rw [cells_cons, List.mapM_cons, ← ih]
    cases cell format env index producer with
    | error fault => rfl
    | ok text => cases cells format env index rest <;> rfl

/-- **The recipients are gone through in order.** -/
theorem rows_eq_mapM (outline : Outline) (base : Env) (recipients : Recipients) (indices : List Nat) :
    rows outline base recipients indices = indices.mapM fun index =>
      cells outline.format (base.enter (recipients.scope index)) index outline.producers.entries := by
  induction indices with
  | nil => rfl
  | cons index rest ih =>
    rw [rows, List.mapM_cons, ← ih]
    cases cells outline.format (base.enter (recipients.scope index)) index outline.producers.entries with
    | error fault => rfl
    | ok row => cases rows outline base recipients rest <;> rfl

/-! ### Rows and columns -/

/-- **The entry of a recipient** under a key. -/
def Table.entryOf (table : Table) (index : Nat) (key : String) : String :=
  ((table.find? key).bind (·[index]?)).getD ""

/-- The text of one placeholder for one of the recipients. -/
def Fills (format : KeyFormat) (env : Nat → Env) (producer : Producer) (index : Nat) (text : String) :
    Prop := cell format (env index) index producer = .ok text

/-- The texts of all placeholders for one of the recipients. -/
def FillsRow (format : KeyFormat) (env : Nat → Env) (producers : List Producer) (index : Nat)
    (row : List String) : Prop := cells format (env index) index producers = .ok row

theorem columns_keys (keys : List String) (rows : List (List String)) :
    (columns keys rows).map (·.1) = keys := by
  induction keys generalizing rows with
  | nil => rfl
  | cons key rest ih => rw [columns, List.map_cons, ih]

section Rows

variable {format : KeyFormat} {env : Nat → Env}

/-- A row is the text of the first placeholder and the row of the others. -/
theorem FillsRow.cons {producer : Producer} {producers : List Producer} {index : Nat}
    {row : List String} (h : FillsRow format env (producer :: producers) index row) :
    ∃ text rest, row = text :: rest ∧ Fills format env producer index text ∧
      FillsRow format env producers index rest := by
  rw [FillsRow, cells_cons] at h
  split at h
  · cases h
  · rename_i text first
    split at h
    · cases h
    · rename_i rest others
      exact ⟨text, rest, (Except.ok.inj h).symm, first, others⟩

/-- Rows are a column for the first placeholder and rows for the others. -/
theorem fillsRow_split {producer : Producer} {producers : List Producer} {indices : List Nat}
    {rows : List (List String)}
    (h : Forall₂ (FillsRow format env (producer :: producers)) indices rows) :
    Forall₂ (Fills format env producer) indices (rows.filterMap List.head?) ∧
      Forall₂ (FillsRow format env producers) indices (rows.map List.tail) := by
  induction h with
  | nil => exact ⟨.nil, .nil⟩
  | cons own _ ih =>
    obtain ⟨text, rest, rfl, first, others⟩ := own.cons
    exact ⟨.cons first ih.1, .cons others ih.2⟩

/-- **Every placeholder has a column** with its texts. -/
theorem column_of_rows {pairs : List (String × Producer)} {indices : List Nat}
    {rows : List (List String)}
    (h : Forall₂ (FillsRow format env (pairs.map (·.2))) indices rows) {key : String}
    {producer : Producer} (mem : (key, producer) ∈ pairs) :
    ∃ column, (key, column) ∈ columns (pairs.map (·.1)) rows ∧
      Forall₂ (Fills format env producer) indices column := by
  induction pairs generalizing rows with
  | nil => exact (List.not_mem_nil mem).elim
  | cons pair rest ih =>
    obtain ⟨first, others⟩ := fillsRow_split h
    rcases List.mem_cons.1 mem with rfl | mem
    · exact ⟨_, List.mem_cons_self, first⟩
    · obtain ⟨column, found, filled⟩ := ih others mem
      exact ⟨column, List.mem_cons_of_mem _ found, filled⟩

/-- Every column has an entry for every recipient. -/
theorem length_of_columns {pairs : List (String × Producer)} {indices : List Nat}
    {rows : List (List String)}
    (h : Forall₂ (FillsRow format env (pairs.map (·.2))) indices rows) :
    ∀ column ∈ columns (pairs.map (·.1)) rows, column.2.length = indices.length := by
  induction pairs generalizing rows with
  | nil => exact fun _ mem => (List.not_mem_nil mem).elim
  | cons pair rest ih =>
    obtain ⟨first, others⟩ := fillsRow_split h
    exact List.forall_mem_cons.2 ⟨first.length_eq.symm, ih others⟩

end Rows

/-- **The rows that can be made** are those in which all placeholders are filled. -/
theorem rows_eq_ok_iff {outline : Outline} {base : Env} {recipients : Recipients}
    {indices : List Nat} {found : List (List String)} :
    rows outline base recipients indices = .ok found ↔
      Forall₂ (FillsRow outline.format (fun index => base.enter (recipients.scope index))
        outline.producers.entries) indices found := by
  rw [rows_eq_mapM, mapM_eq_ok_iff]
  rfl

/-- **A table that could be made:** its keys are those of the placeholders, its columns
have an entry for every recipient, and the entry is what the placeholder comes to in
the environment of the recipient. -/
structure TableOf (outline : Outline) (base : Env) (recipients : Recipients) (count : Nat)
    (table : Table) : Prop where
  keys : table.keys = outline.producers.keys
  lengths : ∀ column ∈ table.pairs, column.2.length = count
  entry : ∀ key producer, (key, producer) ∈ outline.producers.pairs → ∀ index < count,
    cell outline.format (base.enter (recipients.scope index)) index producer =
      .ok (table.entryOf index key)

/-- **What a table holds.** -/
theorem tableOf_table {outline : Outline} {base : Env} {recipients : Recipients} {count : Nat}
    {table : Table} (distinct : outline.producers.DistinctKeys)
    (counted : recipients.count = .ok count) (made : outline.table base recipients = .ok table) :
    TableOf outline base recipients count table := by
  rw [Outline.table, counted] at made
  dsimp only at made
  split at made
  · cases made
  · rename_i found hrows
    obtain rfl := Except.ok.inj made
    have filled := rows_eq_ok_iff.1 hrows
    have keys : Dict.keys ⟨columns outline.producers.keys found⟩ = outline.producers.keys :=
      columns_keys _ _
    refine ⟨keys, fun column mem => ?_, fun key producer mem index less => ?_⟩
    · exact (length_of_columns filled column mem).trans List.length_range
    · obtain ⟨column, hcolumn, texts⟩ := column_of_rows filled mem
      have columnsDistinct : Dict.DistinctKeys ⟨columns outline.producers.keys found⟩ := by
        rw [Dict.DistinctKeys, keys]
        exact distinct
      have lookup : Dict.find? ⟨columns outline.producers.keys found⟩ key = some column :=
        (Dict.find?_eq_some_iff columnsDistinct).2 hcolumn
      have length := texts.length_eq
      rw [List.length_range] at length
      have text := (List.forall₂_iff_get.1 texts).2 index (by rw [List.length_range]; exact less)
        (length ▸ less)
      rw [Table.entryOf, lookup]
      simpa [Fills, length ▸ less] using text

end Outline
end MailMerge
