/-
# The outline of a row of outputs

A row of outputs is the simplest template that has keys. Where its letter is personal
an output becomes a key, elsewhere it becomes text, and keys are handed out from left to
right. If the key format is faithful, the text of a recipient is the row with the
recipient's texts put in.
-/

import MailMerge.Proofs.Outline.Expansion
import MailMerge.Proofs.Tree.Row

namespace MailMerge
namespace Outline

open MailMerge.Tree (rowOutput rowFrom rowSource rowLetters)
open Render (Env)

/-- **The pieces of a row:** the text of a letter that has one for all, and an output for
every other letter. -/
def rowPieces (static : Char → Option String) : Nat → Nat → List Char → List Piece
  | _, _, [] => []
  | id, place, letter :: rest =>
    .part (match static letter with
      | some text => .literal text
      | none => .output (rowOutput letter id place)) :: rowPieces static (id + 1) (place + 5) rest

/-- **The data of a row:** a letter is personal and has a text for the recipient, or has a
text that all share. No text holds the opening mark of keys. -/
structure RowData (format : KeyFormat) (letters : List Char) (static : Char → Option String)
    (value : Char → String) (env own : Env) : Prop where
  fresh : env.interrupts = []
  personal : ∀ letter ∈ letters, static letter = none →
    env.selects [String.singleton letter] = true ∧
      own.get (String.singleton letter) = .text (value letter) ∧
      Text.contains (value letter) format.opening = false
  shared : ∀ letter ∈ letters, ∀ text, static letter = some text →
    env.selects [String.singleton letter] = false ∧
      env.get (String.singleton letter) = .text text ∧
      Text.contains text format.opening = false ∧ text.isEmpty = false

/-- An output of a letter shows the letter's text. -/
theorem renderOutput_letter {env : Env} {letter : Char} {text : String}
    (h : env.get (String.singleton letter) = .text text) (id place : Nat) :
    Render.renderOutput env (rowOutput letter id place) = .ok text := by
  rw [Render.renderOutput, Render.evalPipeline, rowOutput, Render.evalExpr, h]
  rfl

section Row

variable {format : KeyFormat} {letters : List Char} {static : Char → Option String}
  {value : Char → String} {env own : Env}

theorem RowData.tail {letter : Char} (data : RowData format (letter :: letters) static value env own) :
    RowData format letters static value env own :=
  ⟨data.fresh, fun other mem => data.personal other (List.mem_cons_of_mem _ mem),
    fun other mem => data.shared other (List.mem_cons_of_mem _ mem)⟩

/-- **A row is sketched** as its pieces. -/
theorem sketchAll_row (data : RowData format letters static value env own) (id place : Nat) :
    sketchAll format env ((rowFrom id place letters).map .output) =
      (.ok (rowPieces static id place letters), env) := by
  induction letters generalizing id place with
  | nil => rfl
  | cons letter rest ih =>
    have goes : ¬ env.interrupted = true := by simp [Env.interrupted, data.fresh]
    have node : sketchNode format env (.output (rowOutput letter id place)) =
        (.ok [.part (match static letter with
          | some text => .literal text
          | none => .output (rowOutput letter id place))], env) := by
      cases known : static letter with
      | none =>
        have selected := (data.personal letter List.mem_cons_self known).1
        rw [sketchNode]
        exact if_pos selected
      | some text =>
        obtain ⟨unselected, get, clean, nonempty⟩ := data.shared letter List.mem_cons_self text known
        have skipped : ¬ env.selects (rowOutput letter id place).names = true := by
          rw [Bool.not_eq_true]
          exact unselected
        rw [sketchNode, if_neg skipped, renderOutput_letter get, sketchOutcome, Render.Outcome.contained]
        dsimp only
        rw [sketchText, clean, nonempty]
        rfl
    rw [rowFrom, List.map_cons, sketchAll_cons rfl, if_neg goes, node]
    dsimp only
    rw [ih data.tail]
    rfl

/-- **Keys are handed out** from left to right. -/
theorem ring_drawAll_row (data : RowData format letters static value env own) (id place : Nat)
    (walker : Walker) (same : walker.env = env) (marks : walker.ring.format = format) (draft : Draft) :
    (drawAll walker draft ((rowFrom id place letters).map .output)).2.ring =
      walker.ring.takeAll (slotsIn (rowPieces static id place letters)) := by
  induction letters generalizing id place walker draft with
  | nil => rfl
  | cons letter rest ih =>
    have goes : ¬ walker.env.interrupted = true := by simp [Env.interrupted, same, data.fresh]
    rw [rowFrom, List.map_cons, drawAll_cons rfl, if_neg goes, rowPieces]
    cases known : static letter with
    | none =>
      have selected : walker.env.selects (rowOutput letter id place).names = true := by
        rw [same]
        exact (data.personal letter List.mem_cons_self known).1
      rw [drawNode, if_pos selected]
      exact ih data.tail _ _ (walker.take (.output (rowOutput letter id place).id)).2 same
        ((walker.ring.take_format _).trans marks) _
    | some text =>
      obtain ⟨unselected, get, clean, nonempty⟩ := data.shared letter List.mem_cons_self text known
      have skipped : ¬ walker.env.selects (rowOutput letter id place).names = true := by
        rw [same, Bool.not_eq_true]
        exact unselected
      rw [drawNode, if_neg skipped, same, renderOutput_letter get, Walker.addOutcome,
        Render.Outcome.contained]
      dsimp only
      rw [Draft.pushText, marks, clean, nonempty]
      exact ih data.tail _ _ { walker with env := env } rfl marks _

/-- A piece of a row is text or the output of a personal letter. -/
theorem mem_rowPieces {piece : Piece} {id place : Nat} (mem : piece ∈ rowPieces static id place letters) :
    (∃ text, piece = .part (.literal text)) ∨
      ∃ letter ∈ letters, static letter = none ∧
        ∃ number start, piece = .part (.output (rowOutput letter number start)) := by
  induction letters generalizing id place with
  | nil => exact (List.not_mem_nil mem).elim
  | cons letter rest ih =>
    rcases List.mem_cons.1 mem with rfl | mem
    · cases known : static letter with
      | none => exact .inr ⟨letter, List.mem_cons_self, known, id, place, rfl⟩
      | some text => exact .inl ⟨text, rfl⟩
    · refine (ih mem).imp_right fun ⟨other, found, rest⟩ => ?_
      exact ⟨other, List.mem_cons_of_mem _ found, rest⟩

/-- A row has no section, and output does not end in it. -/
theorem sectionsIn_row (static : Char → Option String) (ring : Keyring) (id place : Nat) (letters : List Char) :
    sectionsIn ring (rowPieces static id place letters) = [] ∧
      haltsIn (rowPieces static id place letters) = false := by
  induction letters generalizing id place with
  | nil => exact ⟨rfl, rfl⟩
  | cons letter rest ih =>
    obtain ⟨sections, halts⟩ := ih (id + 1) (place + 5)
    refine ⟨sections, ?_⟩
    rw [rowPieces, haltsIn, List.any_cons, ← haltsIn, halts]
    cases static letter <;> rfl

end Row

/-- **A table can be made** if every placeholder has an entry for every recipient. -/
theorem exists_table {outline : Outline} {base : Env} {recipients : Recipients} {count : Nat}
    (counted : recipients.count = .ok count)
    (filled : ∀ producer ∈ outline.producers.entries, ∀ index < count,
      ∃ text, cell outline.format (base.enter (recipients.scope index)) index producer = .ok text) :
    ∃ table, outline.table base recipients = .ok table := by
  obtain ⟨found, hrows⟩ : ∃ found, rows outline base recipients (List.range count) = .ok found := by
    rw [rows_eq_mapM, exists_mapM_eq_ok_iff]
    intro index mem
    rw [cells_eq_mapM, exists_mapM_eq_ok_iff]
    exact fun producer own => filled producer own index (List.mem_range.1 mem)
  refine ⟨⟨columns outline.producers.keys found⟩, ?_⟩
  rw [Outline.table, counted]
  dsimp only
  rw [hrows]

/-! ### The text of a row -/

/-- No placeholder of a row is a choice. -/
theorem cleanChoices_row {ring : Keyring} {outline : Outline} {letters : List Char}
    {static : Char → Option String} (sketches : Sketches ring outline (rowPieces static 0 0 letters))
    (table : Table) : CleanChoices outline table 1 := by
  intro key choice found
  obtain ⟨piece, hpiece, registered⟩ := List.mem_flatMap.1 (sketches.find?_producers.1 found)
  rcases mem_rowPieces hpiece with ⟨text, rfl⟩ | ⟨letter, -, -, id, place, rfl⟩
  · exact (List.not_mem_nil registered).elim
  · cases (Prod.mk.inj (List.mem_singleton.1 registered)).2

section Merge

variable {format : KeyFormat} {letters : List Char} {static : Char → Option String} {value : Char → String}
  {base : Env} {recipients : Recipients} {ring : Keyring} {outline : Outline}
  (data : RowData format letters static value base (base.enter (recipients.scope 0)))
  (marks : outline.format = format)

include data marks

/-- What fills the output of a personal letter is the letter's text. -/
theorem RowData.cell {letter : Char} (mem : letter ∈ letters) (personal : static letter = none)
    (id place : Nat) :
    Outline.cell outline.format (base.enter (recipients.scope 0)) 0 (.output (rowOutput letter id place)) =
      .ok (value letter) := by
  obtain ⟨-, get, clean⟩ := data.personal letter mem personal
  have rendered : Producer.render (.output (rowOutput letter id place))
      (base.enter (recipients.scope 0)) = .ok (value letter) := renderOutput_letter get id place
  unfold Outline.cell fillCell
  rw [rendered]
  dsimp only
  rw [marks, clean]
  rfl

variable (sketches : Sketches ring outline (rowPieces static 0 0 letters))

include sketches

/-- **The table of a row** can be made. -/
theorem exists_table_row (counted : recipients.count = .ok 1) :
    ∃ table, outline.table base recipients = .ok table ∧ TableOf outline base recipients 1 table := by
  have filled : ∀ producer ∈ outline.producers.entries, ∀ index < 1,
      ∃ text, cell outline.format (base.enter (recipients.scope index)) index producer = .ok text := by
    intro producer mem index less
    obtain rfl := Nat.lt_one_iff.1 less
    obtain ⟨⟨key, own⟩, hpair, rfl⟩ := List.mem_map.1 mem
    obtain ⟨piece, hpiece, registered⟩ := List.mem_flatMap.1 (sketches.producers.mem_iff.1 hpair)
    rcases mem_rowPieces hpiece with ⟨text, rfl⟩ | ⟨letter, hletter, personal, id, place, rfl⟩
    · exact (List.not_mem_nil registered).elim
    · obtain ⟨rfl, rfl⟩ := Prod.mk.inj (List.mem_singleton.1 registered)
      exact ⟨value letter, data.cell marks hletter personal id place⟩
  obtain ⟨table, made⟩ := exists_table counted filled
  exact ⟨table, made, tableOf_table sketches.distinct_producers counted made⟩

/-- **The entry of an output of a row** is the text of its letter. -/
theorem entry_row {table : Table} (made : TableOf outline base recipients 1 table) {letter : Char}
    (hletter : letter ∈ letters) (personal : static letter = none) {id place : Nat}
    (mem : .part (.output (rowOutput letter id place)) ∈ rowPieces static 0 0 letters) :
    table.slotEntry ring 0 (.output id) = value letter := by
  have registered : (ring.keyOf (.output id), Producer.output (rowOutput letter id place)) ∈
      outline.producers.pairs :=
    sketches.producers.mem_iff.2 (mem_producersIn_output.2 ⟨_, mem, List.mem_singleton_self _, rfl⟩)
  have filled := made.entry _ _ registered 0 Nat.one_pos
  rw [data.cell marks hletter personal] at filled
  exact (Except.ok.inj filled).symm

end Merge

/-- The environment of shared data in which a row is drawn up. -/
def rowEnv (settings : Settings) (shared : Render.Scope) : Env :=
  { (Env.ofFilters Render.standardFilters).enter shared with
    strict := settings.strict
    selector := settings.selector }

/-- Drawing up leaves the keyring of an outline. -/
theorem ring_ofDocument (document : Tree.Document) (env : Env) (ring : Keyring) :
    (ofDocument document env ring).2.2 = (drawAll ⟨env, ring, none⟩ .empty document.nodes).2.ring := by
  unfold ofDocument
  split <;> simp [*]

/-- **The text of a row under a faithful key format** is the row with the letters' texts. -/
theorem KeyFormat.Faithful.row {settings : Settings} (faithful : settings.format.Faithful [])
    {letters : List Char} (known : letters ⊆ rowLetters) {static : Char → Option String}
    {value : Char → String} {shared : Render.Scope} {recipients : Recipients}
    (data : RowData settings.format letters static value (rowEnv settings shared)
      ((rowEnv settings shared).enter (recipients.scope 0)))
    (counted : recipients.count = .ok 1) {ring : Keyring}
    (taken : ring = (Keyring.ofFormat settings.format).takeAll (slotsIn (rowPieces static 0 0 letters))) :
    ∃ outline table, Sketches ring outline (rowPieces static 0 0 letters) ∧
      TableOf outline (rowEnv settings shared) recipients 1 table ∧
      outline.strings table 1 =
        .ok [(fillPieces ring (table.slotEntry ring 0) (rowPieces static 0 0 letters)).1] := by
  have parsed := Tree.Document.ofSource_row known (Tree.Vocabulary.withBlocks [])
  obtain ⟨⟨size, ids⟩, -⟩ := Tree.Document.ids_ofSource (Tree.Vocabulary.plain_withBlocks []) parsed
  have distinct : (Tree.Document.mk ((rowFrom 0 0 letters).map .output)).ids.Nodup :=
    ids ▸ List.nodup_range
  have sketch := congrArg Prod.fst (sketchAll_row data 0 0)
  obtain ⟨outline, drawn, sketches⟩ :=
    ofDocument_of_sketch (Keyring.regular_ofFormat settings.format) distinct sketch
  rw [ring_ofDocument, ring_drawAll_row data 0 0 _ rfl rfl, ← taken] at sketches
  have marks : outline.format = settings.format := by
    rw [sketches.format, taken, Keyring.takeAll_format]
    rfl
  obtain ⟨table, made, tabled⟩ := exists_table_row data marks sketches counted
  have template : Template.ofSource (Tree.Vocabulary.withBlocks []) settings (rowSource letters) =
      .ok ⟨⟨(rowFrom 0 0 letters).map .output⟩, settings, Render.standardFilters,
        .ofFormat settings.format⟩ := by
    rw [Template.ofSource, parsed]
    rfl
  obtain ⟨texts, strings, length, expand⟩ := faithful [] (rowSource letters) settings
    Render.standardFilters _ shared outline recipients 1 table rfl template drawn counted made
    (cleanChoices_row sketches table)
  obtain ⟨text, ends, first, expands⟩ := expand 0 Nat.one_pos
  obtain ⟨own, rfl⟩ := List.length_eq_one_iff.1 length
  obtain rfl : own = text := Option.some.inj first
  have filled : Expands outline.sections (table.entryOf 0) outline.fragments
      (fillPieces ring (table.slotEntry ring 0) (rowPieces static 0 0 letters)) := by
    rw [sketches.fragments]
    refine expands_pieces (fun passage mem => ?_) fun passage mem => ?_
    all_goals
      rcases mem_rowPieces mem with ⟨text, same⟩ | ⟨letter, -, -, id, place, same⟩
      · cases same
      · cases same
  refine ⟨outline, table, sketches, tabled, ?_⟩
  rw [strings, ← expands.unique filled]

end Outline
end MailMerge
