/-
# What the table of a batch holds

A table has a column for every placeholder and an entry for every recipient in it: what the
placeholder comes to with the recipient's own values laid over the data. Neither the other
recipients nor the placeholders that were filled before have a part in it, though these
leave their faults in the environment.

There is no table if the recipients are not in a rectangle, and otherwise if a placeholder
cannot be filled. Then the first such place is reported, recipients being gone through in
order and, for each of them, placeholders in the order of their keys.
-/

import MailMerge.Proofs.Outline.Outcomes

namespace MailMerge
namespace Outline

open Render (Env)
open MailMerge.Tree (Output)

/-- **What a placeholder comes to** for one of the recipients, whose own values are laid over
the data. A fault is contained, unless it is to be handed back. -/
def ownEntry (base : Env) (recipients : Recipients) (index : Nat) (producer : Producer) :
    Except Render.Fault String :=
  Render.settled base.strict (producer.render (base.enter (recipients.scope index)))

/-- **What is reported of a placeholder that cannot be filled:** the fault that is handed back,
or the text of an output that holds the opening mark of keys. -/
inductive Unfilled (format : KeyFormat) (index : Nat) :
    Producer → Except Render.Fault String → Fault → Prop
  | personal (producer : Producer) (fault : Render.Fault) :
      Unfilled format index producer (.error fault) (.personal index fault)
  | reserved (output : Output) {text : String} (holds : Text.contains text format.opening = true) :
      Unfilled format index (.output output) (.ok text) (.reservedText text)

/-- **A place that cannot be filled:** that of a recipient under a key. -/
def FailsAt (outline : Outline) (base : Env) (recipients : Recipients) (index : Nat) (key : String)
    (fault : Fault) : Prop :=
  ∃ producer, (key, producer) ∈ outline.producers.pairs ∧
    Unfilled outline.format index producer (ownEntry base recipients index producer) fault

/-- **Coming before** another place: an earlier recipient, or the same one and a smaller key. -/
def Before (index : Nat) (key : String) (other : Nat) (otherKey : String) : Prop :=
  index < other ∨ index = other ∧ key < otherKey

/-! ### One placeholder -/

section Cell

variable {outline : Outline} {base : Env} {recipients : Recipients} {index : Nat}
  {producer : Producer} {fault : Fault}

/-- **Why a placeholder is not filled.** -/
theorem cell_eq_error_iff :
    cell outline.format (base.enter (recipients.scope index)) index producer = .error fault ↔
      Unfilled outline.format index producer (ownEntry base recipients index producer) fault := by
  rw [cell_eq]
  change _ ↔ Unfilled _ _ _
    (Render.settled (base.enter (recipients.scope index)).strict _) _
  generalize Render.settled _ _ = filled
  constructor
  · intro failed
    match filled, producer with
    | .error own, _ =>
      obtain rfl := Except.error.inj failed
      exact .personal _ own
    | .ok _, .choice _ => cases failed
    | .ok text, .output output =>
      dsimp only at failed
      split at failed
      · rename_i holds
        obtain rfl := Except.error.inj failed
        exact .reserved output holds
      · cases failed
  · intro unfilled
    cases unfilled with
    | personal => rfl
    | reserved output holds => exact if_pos holds

/-- What fills a placeholder is its entry. -/
theorem ownEntry_of_cell {text : String}
    (filled : cell outline.format (base.enter (recipients.scope index)) index producer = .ok text) :
    ownEntry base recipients index producer = .ok text := settled_of_cell filled

end Cell

/-! ### The first failure -/

section First

variable {outline : Outline} {base : Env} {recipients : Recipients} {count : Nat} {fault : Fault}

/-- **What stops a table** is the first placeholder that cannot be filled, for the first
recipient that has one. -/
theorem rows_eq_error (failed : rows outline base recipients (List.range count) = .error fault) :
    ∃ index < count, ∃ before key producer after,
      outline.producers.pairs = before ++ (key, producer) :: after ∧
        cell outline.format (base.enter (recipients.scope index)) index producer = .error fault ∧
        (∀ entry ∈ before, ∃ text,
          cell outline.format (base.enter (recipients.scope index)) index entry.2 = .ok text) ∧
        ∀ earlier < index, ∀ entry ∈ outline.producers.pairs, ∃ text,
          cell outline.format (base.enter (recipients.scope earlier)) earlier entry.2 = .ok text := by
  rw [rows_eq_mapM] at failed
  obtain ⟨index, less, row, full⟩ := mapM_range_eq_error failed
  rw [cells_eq_mapM] at row
  obtain ⟨producers, producer, others, entries, unfilled, filled⟩ := mapM_eq_error row
  obtain ⟨before, tail, pairs, rfl, others⟩ := List.map_eq_append_iff.1 entries
  obtain ⟨⟨key, own⟩, after, rfl, rfl, -⟩ := List.map_eq_cons_iff.1 others
  refine ⟨index, less, before, key, own, after, pairs, unfilled, fun entry mem => ?_,
    fun earlier smaller entry mem => ?_⟩
  · exact filled entry.2 (List.mem_map.2 ⟨entry, mem, rfl⟩)
  · have row := full earlier smaller
    rw [cells_eq_mapM, exists_mapM_eq_ok_iff] at row
    exact row entry.2 (List.mem_map.2 ⟨entry, mem, rfl⟩)

/-- The first place that cannot be filled, keys being in ascending order. -/
theorem first_failure (sorted : outline.producers.Sorted)
    (failed : rows outline base recipients (List.range count) = .error fault) :
    ∃ index < count, ∃ key, FailsAt outline base recipients index key fault ∧
      ∀ earlier other, Before earlier other index key →
        ∀ own, ¬ FailsAt outline base recipients earlier other own := by
  obtain ⟨index, less, before, key, producer, after, pairs, unfilled, filled, full⟩ := rows_eq_error failed
  have mem : (key, producer) ∈ outline.producers.pairs := by simp [pairs]
  refine ⟨index, less, key, ⟨producer, mem, cell_eq_error_iff.1 unfilled⟩, ?_⟩
  rintro earlier other (smaller | ⟨rfl, smaller⟩) own ⟨candidate, listed, failing⟩
  · obtain ⟨text, found⟩ := full earlier smaller (other, candidate) listed
    cases found.symm.trans (cell_eq_error_iff.2 failing)
  · have ascending := sorted
    rw [Dict.Sorted, pairs, List.pairwise_append, List.pairwise_cons] at ascending
    rw [pairs, List.mem_append, List.mem_cons] at listed
    -- a smaller key stands before the one that fails
    rcases listed with listed | same | listed
    · obtain ⟨text, found⟩ := filled (other, candidate) listed
      cases found.symm.trans (cell_eq_error_iff.2 failing)
    · obtain ⟨rfl, rfl⟩ := Prod.mk.inj same
      exact String.lt_irrefl _ smaller
    · exact String.lt_irrefl _ (String.lt_trans smaller (ascending.2.1.1 _ listed))

end First

/-! ### Counting recipients -/

namespace Recipients

variable {recipients : Recipients}

/-- **There are no recipients** if no name has a value. -/
theorem count_eq_empty_iff :
    recipients.count = .error .emptyRecipients ↔ ∀ column ∈ recipients.pairs, column.2 = [] := by
  unfold count
  split
  · rename_i pairs
    simp [pairs]
  · rename_i name first rest pairs
    rw [pairs, List.forall_mem_cons]
    split
    · rename_i fault lengths
      refine ⟨fun same => ?_, fun ⟨first_empty, others⟩ => ?_⟩
      · obtain rfl := Except.error.inj same
        obtain ⟨_, _, same⟩ := checkLengths_error lengths
        cases same
      · have even := checkLengths_eq_ok_iff.2 fun column mem => (congrArg List.length (others column mem) :)
        simp only at first_empty
        subst first_empty
        cases lengths.symm.trans even
    · rename_i lengths
      have even := checkLengths_eq_ok_iff.1 lengths
      cases first with
      | nil => simpa using even
      | cons value values => simp

/-- **The names are uneven** if two of them have not as many values. -/
theorem count_eq_mismatch_iff :
    (∃ name expected found, recipients.count = .error (.lengthMismatch name expected found)) ↔
      ∃ first ∈ recipients.pairs, ∃ second ∈ recipients.pairs, first.2.length ≠ second.2.length := by
  constructor
  · rintro ⟨name, expected, found, failed⟩
    by_contra even
    push Not at even
    by_cases empty : ∀ column ∈ recipients.pairs, column.2 = []
    · cases failed.symm.trans (count_eq_empty_iff.2 empty)
    · push Not at empty
      obtain ⟨column, mem, nonempty⟩ := empty
      have counted := count_ok (List.ne_nil_of_mem mem) (fun other listed => even other listed column mem)
        (List.length_pos_of_ne_nil nonempty)
      cases failed.symm.trans counted
  · rintro ⟨first, first_mem, second, second_mem, uneven⟩
    cases counted : recipients.count with
    | ok rows =>
      have lengths := length_of_count counted
      exact absurd ((lengths first first_mem).trans (lengths second second_mem).symm) uneven
    | error fault =>
      rcases count_error counted with rfl | ⟨name, expected, found, rfl⟩
      · have empty := count_eq_empty_iff.1 counted
        exact absurd (by rw [empty first first_mem, empty second second_mem]) uneven
      · exact ⟨name, expected, found, rfl⟩

end Recipients

/-! ### The table -/

section Table

variable {outline : Outline} {base : Env} {recipients : Recipients}

/-- **A table that is aligned** with placeholders and recipients: its keys are those of the
placeholders, and the entry of each recipient is what the placeholder comes to for it. -/
structure Aligned (outline : Outline) (base : Env) (recipients : Recipients) (count : Nat)
    (table : Table) : Prop where
  keys : table.keys = outline.producers.keys
  lengths : ∀ column ∈ table.pairs, column.2.length = count
  entry : ∀ index < count, ∀ key producer, (key, producer) ∈ outline.producers.pairs →
    ∃ column text, table.find? key = some column ∧ column[index]? = some text ∧
      ownEntry base recipients index producer = .ok text

theorem TableOf.aligned {count : Nat} {table : Table} (distinct : outline.producers.DistinctKeys)
    (h : TableOf outline base recipients count table) : Aligned outline base recipients count table where
  keys := h.keys
  lengths := h.lengths
  entry index less key producer mem := by
    have listed : key ∈ table.keys := h.keys ▸ Dict.mem_keys_iff.2 ⟨producer, mem⟩
    obtain ⟨column, paired⟩ := Dict.mem_keys_iff.1 listed
    have table_distinct : table.DistinctKeys := by
      rw [Dict.DistinctKeys, h.keys]
      exact distinct
    have found : table.find? key = some column := (Dict.find?_eq_some_iff table_distinct).2 paired
    have inside : index < column.length := (h.lengths _ paired).symm ▸ less
    have filled := ownEntry_of_cell (h.entry key producer mem index less)
    rw [Table.entryOf, found, Option.bind_some, List.getElem?_eq_getElem inside] at filled
    exact ⟨column, column[index], found, List.getElem?_eq_getElem inside, filled⟩

/-- With recipients that are counted a table is made of rows. -/
theorem table_counted {count : Nat} (counted : recipients.count = .ok count) :
    outline.table base recipients = (rows outline base recipients (List.range count)).map
      fun found => ⟨columns outline.producers.keys found⟩ := by
  rw [Outline.table, counted]
  dsimp only
  cases rows outline base recipients (List.range count) <;> rfl

/-- **A place fails** with a fault of its recipient or a text that is refused. -/
theorem FailsAt.fault_cases {index : Nat} {key : String} {fault : Fault}
    (h : FailsAt outline base recipients index key fault) :
    (∃ own, fault = .personal index own) ∨ ∃ text, fault = .reservedText text := by
  obtain ⟨producer, -, failing⟩ := h
  generalize ownEntry base recipients index producer = filled at failing
  cases failing with
  | personal _ own => exact .inl ⟨own, rfl⟩
  | reserved output holds => exact .inr ⟨_, rfl⟩

/-- A fault that is not that of a place is found while recipients are counted. -/
theorem table_eq_error_iff_count {fault : Fault}
    (uncounted : ∀ index key, ¬ FailsAt outline base recipients index key fault) :
    outline.table base recipients = .error fault ↔ recipients.count = .error fault := by
  cases counted : recipients.count with
  | error other =>
    rw [Outline.table, counted]
    dsimp only
    rw [Except.error.injEq, Except.error.injEq]
  | ok count =>
    rw [table_counted counted]
    refine ⟨fun failed => ?_, fun failed => by cases failed⟩
    cases made : rows outline base recipients (List.range count) with
    | ok found =>
      rw [made] at failed
      cases failed
    | error other =>
      rw [made] at failed
      obtain rfl := Except.error.inj failed
      obtain ⟨index, -, before, key, producer, after, pairs, unfilled, -⟩ := rows_eq_error made
      exact absurd ⟨producer, by simp [pairs], cell_eq_error_iff.1 unfilled⟩ (uncounted index key)

/-- **The table of a batch.** There are no recipients, or the names are uneven, exactly if that
is reported. Otherwise, if every place can be filled there is a table, and it is aligned; and
if some cannot, the fault of the first of them is reported. -/
theorem table_aligned (sorted : outline.producers.Sorted) (base : Env) (recipients : Recipients) :
    (outline.table base recipients = .error .emptyRecipients ↔
        ∀ column ∈ recipients.pairs, column.2 = []) ∧
      ((∃ name expected found,
          outline.table base recipients = .error (.lengthMismatch name expected found)) ↔
        ∃ first ∈ recipients.pairs, ∃ second ∈ recipients.pairs,
          first.2.length ≠ second.2.length) ∧
      ∀ count, 0 < count → recipients.pairs ≠ [] →
        (∀ column ∈ recipients.pairs, column.2.length = count) →
          ((∀ index < count, ∀ key fault, ¬ FailsAt outline base recipients index key fault) →
            ∃ table, outline.table base recipients = .ok table ∧
              Aligned outline base recipients count table) ∧
          ((∃ index < count, ∃ key fault, FailsAt outline base recipients index key fault) →
            ∃ index < count, ∃ key fault, FailsAt outline base recipients index key fault ∧
              (∀ earlier other, Before earlier other index key →
                ∀ own, ¬ FailsAt outline base recipients earlier other own) ∧
              outline.table base recipients = .error fault) := by
  have distinct := sorted.distinctKeys
  refine ⟨?_, ?_, fun count least bound lengths => ?_⟩
  · rw [table_eq_error_iff_count, Recipients.count_eq_empty_iff]
    intro index key failing
    rcases failing.fault_cases with ⟨own, same⟩ | ⟨text, same⟩ <;> cases same
  · rw [← Recipients.count_eq_mismatch_iff]
    refine exists_congr fun name => exists_congr fun expected => exists_congr fun found => ?_
    refine table_eq_error_iff_count fun index key failing => ?_
    rcases failing.fault_cases with ⟨own, same⟩ | ⟨text, same⟩ <;> cases same
  · have counted := Recipients.count_ok bound lengths least
    cases made : outline.table base recipients with
    | ok table =>
      have tabled := tableOf_table distinct counted made
      refine ⟨fun _ => ⟨table, rfl, tabled.aligned distinct⟩, ?_⟩
      rintro ⟨index, less, key, fault, producer, mem, failing⟩
      cases (tabled.entry key producer mem index less).symm.trans (cell_eq_error_iff.2 failing)
    | error fault =>
      rw [table_counted counted] at made
      cases unmade : rows outline base recipients (List.range count) with
      | ok found =>
        rw [unmade] at made
        cases made
      | error other =>
        rw [unmade] at made
        obtain rfl := Except.error.inj made
        obtain ⟨index, less, key, failing, first⟩ := first_failure sorted unmade
        exact ⟨fun fine => absurd failing (fine index less key other),
          fun _ => ⟨index, less, key, other, failing, first, rfl⟩⟩

/-- A filter that is not defined, for two recipients. Where faults are contained its text fills
the column. Where they are not, it is reported for the first recipient, though a text with the
mark is refused under a smaller key for the second one. -/
theorem table_aligned_filter :
    let outline : Outline := {
      fragments := [.output "<1>", .output "<2>"]
      producers := ⟨[("<1>", .output ⟨0, "a", .lookup "a" [], [], ⟨0, 0⟩⟩),
        ("<2>", .output ⟨1, "b | c", .lookup "b" [], [⟨"c", []⟩], ⟨0, 0⟩⟩)]⟩
      sections := ∅, format := ⟨"<", ">"⟩, halt := none }
    let lenient := Env.ofFilters Render.standardFilters
    let strict := { Env.ofFilters Render.standardFilters with strict := true }
    let fault : Render.Fault := .undefinedFilter "c"
    let clean : Recipients := ⟨[("a", [.text "x", .text "y"])]⟩
    let marked : Recipients := ⟨[("a", [.text "x", .text "<"])]⟩
    outline.producers.Sorted ∧
      (∃ table, outline.table lenient clean = .ok table ∧ Aligned outline lenient clean 2 table ∧
        table.pairs = [("<1>", ["x", "y"]), ("<2>", [fault.text, fault.text])]) ∧
      FailsAt outline strict marked 1 "<1>" (.reservedText "<") ∧
      outline.table strict marked = .error (.personal 0 fault) ∧
      ∃ index < 2, ∃ key, FailsAt outline strict marked index key (.personal 0 fault) ∧
        ∀ earlier other, Before earlier other index key →
          ∀ own, ¬ FailsAt outline strict marked earlier other own := by
  intro outline lenient strict fault clean marked
  have sorted : outline.producers.Sorted := by
    simp only [Dict.Sorted, outline, List.pairwise_cons]
    decide
  refine ⟨sorted, ?_, ?_⟩
  · have evaluated : (outline.table lenient clean).toOption.map Dict.pairs =
        some [("<1>", ["x", "y"]), ("<2>", [fault.text, fault.text])] := by
      decide +kernel
    obtain ⟨table, made, pairs⟩ := Option.map_eq_some_iff.1 evaluated
    have made := eq_ok_of_toOption made
    have filled := (table_aligned sorted lenient clean).2.2 2 (by decide) (by decide) (by decide)
    have fine : ∀ index < 2, ∀ key fault, ¬ FailsAt outline lenient clean index key fault := by
      intro index less key fault failing
      obtain ⟨_, -, _, _, -, -, failed⟩ := filled.2 ⟨index, less, key, fault, failing⟩
      cases made.symm.trans failed
    obtain ⟨same, made', aligned⟩ := filled.1 fine
    obtain rfl := Except.ok.inj (made.symm.trans made')
    exact ⟨table, made, aligned, pairs⟩
  · have failing : FailsAt outline strict marked 1 "<1>" (.reservedText "<") :=
      ⟨_, List.mem_cons_self, cell_eq_error_iff.1 (by decide +kernel)⟩
    have stopped : rows outline strict marked (List.range 2) = .error (.personal 0 fault) := by
      decide +kernel
    have failed : outline.table strict marked = .error (.personal 0 fault) := by
      rw [table_counted (by decide +kernel : marked.count = .ok 2), stopped]
      rfl
    have filled := (table_aligned sorted strict marked).2.2 2 (by decide) (by decide) (by decide)
    obtain ⟨index, less, key, own, first, least, same⟩ := filled.2 ⟨1, by decide, _, _, failing⟩
    obtain rfl := Except.error.inj (failed.symm.trans same)
    exact ⟨failing, failed, index, less, key, first, least⟩

end Table

end Outline
end MailMerge
