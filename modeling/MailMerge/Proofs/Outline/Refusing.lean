/-
# Text that is refused

Text is refused piece by piece, when it is added to an outline, and pieces that follow one
another are joined afterwards: the texts of neighbouring nodes, of blocks, and of
conditionals that are decided at once. So a literal is put together from pieces without
the opening mark of keys. If the mark is a character, the literal has none of it either,
and drawing up fails as soon as some literal would. If the mark is longer, a literal can
hold it across two of its pieces, and nothing is refused.

What would be in the outline is what a walk with other marks draws up, whose text is the
same: the proofs follow the two walks side by side.
-/

import MailMerge.Proofs.Outline.Collision
import MailMerge.Proofs.Outline.Pairing

namespace MailMerge
namespace Outline

open MailMerge.Tree (Document)
open Render (Env)

/-! ### Literals -/

/-- The text of a fragment is of a kind, if it is a literal. -/
def Fragment.TextIs (kind : String → Prop) (fragment : Fragment) : Prop :=
  ∀ text, fragment = .literal text → kind text

/-- **All literals are of a kind,** those of the draft and those of its sections. -/
structure Draft.TextsAre (kind : String → Prop) (draft : Draft) : Prop where
  fragments : ∀ fragment ∈ draft.fragments, fragment.TextIs kind
  sections : ∀ body ∈ draft.sections.entries, ∀ fragment ∈ body, fragment.TextIs kind

section Texts

variable {kind : String → Prop}

theorem textIs_of_not_literal {fragment : Fragment} (h : fragment.isLiteral = false) :
    fragment.TextIs kind := by
  rintro text rfl
  cases h

theorem textsAre_empty : Draft.empty.TextsAre kind :=
  ⟨fun _ mem => (List.not_mem_nil mem).elim, fun _ mem => (List.not_mem_nil mem).elim⟩

theorem mem_entries_insert {α : Type} {table : Dict α} {key : String} {entry other : α}
    (mem : other ∈ (table.insert key entry).entries) : other = entry ∨ other ∈ table.entries := by
  obtain ⟨pair, found, rfl⟩ := List.mem_map.1 mem
  rcases Dict.mem_insertIn found with rfl | found
  · exact .inl rfl
  · exact .inr (List.mem_map_of_mem found)

theorem mem_entries_overlay {α : Type} {base top : Dict α} {entry : α}
    (mem : entry ∈ (base.overlay top).entries) : entry ∈ base.entries ∨ entry ∈ top.entries := by
  obtain ⟨pairs⟩ := top
  unfold Dict.overlay at mem
  simp only [Dict.entries] at mem ⊢
  induction pairs generalizing base with
  | nil => exact .inl mem
  | cons pair rest ih =>
    rcases ih mem with inserted | later
    · rcases mem_entries_insert inserted with rfl | below
      · exact .inr List.mem_cons_self
      · exact .inl below
    · exact .inr (List.mem_cons_of_mem _ later)

section Appending

variable (appends : ∀ first second, kind first → kind second → kind (first ++ second))

include appends

/-- **Joining keeps literals of their kind.** -/
theorem textIs_pushFragment {fragments : List Fragment} {fragment : Fragment}
    (h : ∀ own ∈ fragments, own.TextIs kind) (added : fragment.TextIs kind) :
    ∀ own ∈ pushFragment fragments fragment, own.TextIs kind := by
  fun_induction pushFragment fragments fragment with
  | case1 => exact List.forall_mem_singleton.2 added
  | case2 text more =>
    refine List.forall_mem_singleton.2 ?_
    rintro whole same
    obtain rfl := Fragment.literal.inj same
    exact appends _ _ (h _ List.mem_cons_self _ rfl) (added _ rfl)
  | case3 first rest fragment _ ih =>
    obtain ⟨own, others⟩ := List.forall_mem_cons.1 h
    exact List.forall_mem_cons.2 ⟨own, ih others added⟩

namespace Draft.TextsAre

variable {draft child : Draft}

theorem push (h : draft.TextsAre kind) {fragment : Fragment} (added : fragment.TextIs kind) :
    (draft.push fragment).TextsAre kind :=
  ⟨textIs_pushFragment appends h.fragments added, h.sections⟩

omit appends in
theorem register (h : draft.TextsAre kind) (inner : child.TextsAre kind) :
    (draft.register child).TextsAre kind :=
  ⟨h.fragments, fun body mem => (mem_entries_overlay mem).elim (h.sections body) (inner.sections body)⟩

/-- A draft that takes over another keeps its literals of their kind. -/
theorem absorb (h : draft.TextsAre kind) (inner : child.TextsAre kind) :
    (draft.absorb child).TextsAre kind := by
  have general : ∀ (fragments : List Fragment) (before : Draft), before.TextsAre kind →
      (∀ fragment ∈ fragments, fragment.TextIs kind) →
        (fragments.foldl Draft.push before).TextsAre kind := by
    intro fragments
    induction fragments with
    | nil => exact fun _ own _ => own
    | cons fragment rest ih =>
      intro before own all
      obtain ⟨first, others⟩ := List.forall_mem_cons.1 all
      exact ih _ (own.push appends first) others
  exact general _ _ (h.register inner) inner.fragments

/-- A section is added with its own literals. -/
theorem addSection (h : draft.TextsAre kind) (ring : Keyring) (branch run : Nat) {body : List Fragment}
    (own : ∀ fragment ∈ body, fragment.TextIs kind) (guard : Guard) :
    (draft.addSection ring branch run body guard).1.TextsAre kind := by
  unfold Draft.addSection
  dsimp only
  refine push appends ?_ ?_
  · refine ⟨h.fragments, fun other mem => ?_⟩
    rcases mem_entries_insert mem with rfl | mem
    · exact own
    · exact h.sections other mem
  · exact textIs_of_not_literal rfl

theorem addRun (h : draft.TextsAre kind) (ring : Keyring) (branch runs : Nat) {run : List Fragment}
    (own : ∀ fragment ∈ run, fragment.TextIs kind) (guard : Guard) :
    (draft.addRun ring branch runs run guard).1.TextsAre kind := by
  unfold Draft.addRun
  split
  · exact h
  · exact h.addSection appends ring branch runs own guard

theorem addRuns (h : draft.TextsAre kind) (ring : Keyring) (branch runs : Nat)
    {run fragments : List Fragment} (own : ∀ fragment ∈ run, fragment.TextIs kind)
    (others : ∀ fragment ∈ fragments, fragment.TextIs kind) (guard : Guard) :
    (Draft.addRuns branch guard draft ring runs run fragments).1.TextsAre kind := by
  induction fragments generalizing draft ring runs run with
  | nil => exact h.addRun appends ring branch runs own guard
  | cons fragment rest ih =>
    obtain ⟨first, rest_texts⟩ := List.forall_mem_cons.1 others
    have longer : ∀ other ∈ run ++ [fragment], other.TextIs kind :=
      List.forall_mem_append.2 ⟨own, List.forall_mem_singleton.2 first⟩
    cases fragment with
    | choice key =>
      have added := h.addRun appends ring branch runs own guard
      have guarded : ((draft.addRun ring branch runs run guard).1.guardChoice key guard).TextsAre kind :=
        ⟨added.fragments, added.sections⟩
      exact ih (guarded.push appends first) (draft.addRun ring branch runs run guard).2.1
        (draft.addRun ring branch runs run guard).2.2 (fun _ mem => (List.not_mem_nil mem).elim) rest_texts
    | literal text => exact ih h _ _ longer rest_texts
    | output key => exact ih h _ _ longer rest_texts
    | halt key => exact ih h _ _ longer rest_texts

/-- **A branch is added** with the literals of its body. -/
theorem addBranch (h : draft.TextsAre kind) (ring : Keyring) (branch : Nat) (guard : Guard)
    (inner : child.TextsAre kind) : (draft.addBranch ring branch guard child).1.TextsAre kind := by
  have registered := h.register inner
  unfold Draft.addBranch
  dsimp only
  split
  · exact registered.addRuns appends ring branch 0 (fun _ mem => (List.not_mem_nil mem).elim)
      inner.fragments guard
  · exact registered.addSection appends ring branch 0 inner.fragments guard

omit appends in
theorem reportTo (h : draft.TextsAre kind) (owner : Nat) (reporter : Option Fragment) :
    (draft.reportTo owner reporter).TextsAre kind := by
  unfold Draft.reportTo
  split
  · exact ⟨h.fragments, h.sections⟩
  · exact h

theorem closeBody (h : draft.TextsAre kind) (walker : Walker) (depth : Nat) :
    (walker.closeBody depth draft).1.TextsAre kind := by
  unfold Walker.closeBody
  split
  · exact h.push appends (textIs_of_not_literal rfl)
  · exact h

end Draft.TextsAre

end Appending

end Texts

/-! ### Marks are kept -/

section Marks

variable (draft : Draft) (ring : Keyring) (branch run : Nat) (body : List Fragment) (guard : Guard)

theorem addSection_format : (draft.addSection ring branch run body guard).2.format = ring.format := by
  simp [Draft.addSection]

theorem addRun_format : (draft.addRun ring branch run body guard).2.1.format = ring.format := by
  unfold Draft.addRun
  split
  · rfl
  · exact addSection_format draft ring branch run body guard

theorem addRuns_format (fragments : List Fragment) :
    (Draft.addRuns branch guard draft ring run body fragments).2.format = ring.format := by
  induction fragments generalizing draft ring run body with
  | nil => exact addRun_format ..
  | cons fragment rest ih =>
    cases fragment with
    | choice key => exact (ih _ _ _ _).trans (addRun_format ..)
    | literal text => exact ih _ _ _ _
    | output key => exact ih _ _ _ _
    | halt key => exact ih _ _ _ _

theorem addBranch_format (child : Draft) :
    (draft.addBranch ring branch guard child).2.format = ring.format := by
  unfold Draft.addBranch
  dsimp only
  split
  · exact addRuns_format ..
  · exact addSection_format ..

theorem closeBody_format (walker : Walker) (depth : Nat) :
    (walker.closeBody depth draft).2.ring.format = walker.ring.format := by
  unfold Walker.closeBody
  split
  · exact walker.ring.take_format .halt
  · rfl

end Marks

/-! ### Two walks with different marks -/

/-- **A walk abreast another:** in the same environment, with a keyring for the marks. -/
structure Abreast (format : KeyFormat) (other walker : Walker) : Prop where
  env : walker.env = other.env
  marks : walker.ring.format = format

/-- **What a walk with the marks comes to where the other walk has a draft:** it refuses a
text that holds the opening mark, or it has a draft too and all literals are of the kind. -/
def Refuses (format : KeyFormat) (kind : String → Prop) (other drawn : Drawn) : Prop :=
  ∀ draft, other.1 = .ok draft →
    (∃ text, drawn.1 = .error (.reservedText text) ∧ Text.contains text format.opening = true) ∨
      (∃ own, drawn.1 = .ok own) ∧ Abreast format other.2 drawn.2 ∧ draft.TextsAre kind

/-- **A kind that literals cannot leave:** it has the texts that are not refused, and what
is put together from texts of the kind. -/
structure KeptBy (format : KeyFormat) (kind : String → Prop) : Prop where
  unheld : ∀ text, Text.contains text format.opening = false → kind text
  appends : ∀ first second, kind first → kind second → kind (first ++ second)

section Walks

variable {format : KeyFormat} {kind : String → Prop}

theorem refuses_ok {draft own : Draft} {other walker : Walker} (abreast : Abreast format other walker)
    (texts : draft.TextsAre kind) : Refuses format kind (.ok draft, other) (.ok own, walker) := by
  rintro _ ⟨⟩
  exact .inr ⟨⟨own, rfl⟩, abreast, texts⟩

theorem Refuses.outside {other drawn : Drawn} (h : Refuses format kind other drawn) :
    Refuses format kind (outside other) (outside drawn) := by
  intro draft found
  refine (h draft found).imp_right fun ⟨drew, abreast, literals⟩ => ⟨drew, ⟨?_, abreast.marks⟩, literals⟩
  exact congrArg Env.leave abreast.env

/-- **A text is refused,** or is a literal of the kind. -/
theorem refuses_text (kept : KeptBy format kind) {other walker : Walker}
    (abreast : Abreast format other walker) {draft : Draft}
    (texts : draft.TextsAre kind) (own : Draft) (text : String) :
    Refuses format kind (draft.pushText other.ring.format text, other)
      (own.pushText walker.ring.format text, walker) := by
  intro next found
  rw [abreast.marks]
  cases held : Text.contains text format.opening with
  | true => exact .inl ⟨text, by rw [Draft.pushText, held]; rfl, held⟩
  | false =>
    refine .inr ⟨?_, abreast, ?_⟩
    · rw [Draft.pushText, held, if_neg Bool.false_ne_true]
      split
      · exact ⟨_, rfl⟩
      · exact ⟨_, rfl⟩
    · dsimp only [Draft.pushText] at found
      split at found
      · cases found
      · split at found
        · obtain rfl := Except.ok.inj found
          exact texts
        · obtain rfl := Except.ok.inj found
          refine texts.push kept.appends ?_
          rintro piece same
          obtain rfl := Fragment.literal.inj same
          exact kept.unheld _ held

/-- **A branch is added,** with literals of the kind. -/
theorem refuses_addDrawn (kept : KeptBy format kind) {other walker : Walker}
    (abreast : Abreast format other walker) {draft child : Draft} (texts : draft.TextsAre kind)
    (inner : child.TextsAre kind) (own ownChild : Draft) (depth branch : Nat) (guard : Guard) :
    Refuses format kind (.done (draft.addDrawn depth branch guard child other))
      (.done (own.addDrawn depth branch guard ownChild walker)) := by
  have closed := inner.closeBody kept.appends other depth
  have env : (walker.closeBody depth ownChild).2.env = (other.closeBody depth child).2.env := by
    rw [closeBody_env, closeBody_env, abreast.env]
  have marks : (walker.closeBody depth ownChild).2.ring.format = format :=
    (closeBody_format ..).trans abreast.marks
  exact refuses_ok ⟨env, (addBranch_format ..).trans marks⟩
    (texts.addBranch kept.appends _ branch guard closed)

/-- What goes on after something was refused does not start. -/
theorem Refuses.andThen {other drawn : Drawn} (h : Refuses format kind other drawn)
    {next next' : Draft → Walker → Drawn}
    (goes : ∀ {child own after after'}, Abreast format after after' → child.TextsAre kind →
      Refuses format kind (next child after) (next' own after')) :
    Refuses format kind (other.andThen next) (drawn.andThen next') := by
  obtain ⟨result, after⟩ := other
  obtain ⟨result', after'⟩ := drawn
  cases result with
  | error fault => rintro _ ⟨⟩
  | ok child =>
    rcases h child rfl with ⟨text, rfl, holds⟩ | ⟨⟨own, rfl⟩, later, literals⟩
    · exact fun _ _ => .inl ⟨text, rfl, holds⟩
    · exact goes later literals

theorem drafting_textsAre (kept : KeptBy format kind) :
    Drafting fun draft _ => draft.TextsAre kind where
  empty := textsAre_empty
  absorb texts inner := texts.absorb kept.appends inner
  report _ next owner := next.reportTo owner _

/-- **Two walks abreast,** of which the second refuses what holds its mark. -/
theorem pairing_refuses (kept : KeptBy format kind) :
    Pairing Eq (fun _ => True) (Abreast format) (fun draft _ => draft.TextsAre kind)
      fun _ => Refuses format kind where
  toMatching := Render.matching_eq
  toDrafting := drafting_textsAre kept
  env abreast := abreast.env.symm
  withEnv abreast _ _ envs := ⟨envs.symm, abreast.marks⟩
  ok abreast _ _ texts := refuses_ok abreast texts
  failed _ _ := by rintro _ ⟨⟩
  text abreast _ own texts raw := refuses_text kept abreast texts own raw
  putOff {other walker} abreast _ _ texts output := by
    have taken : Abreast format (other.take (.output output.id)).2 (walker.take (.output output.id)).2 :=
      ⟨abreast.env, (walker.ring.take_format _).trans abreast.marks⟩
    unfold Draft.putOff
    refine refuses_ok taken (Draft.TextsAre.push kept.appends ?_ (textIs_of_not_literal rfl))
    exact ⟨texts.fragments, texts.sections⟩
  added abreast _ own texts _ ownChild inner depth branch guard :=
    refuses_addDrawn kept abreast texts inner own ownChild depth branch guard
  outside h := h.outside
  andThen h _ _ goes := h.andThen goes

end Walks

/-! ### Outlines -/

section Documents

variable {format : KeyFormat} {kind : String → Prop} {document : Document} {env : Env}

theorem Draft.TextsAre.everyFragment {outline : Outline} {draft : Draft} (h : draft.TextsAre kind)
    (fragments : outline.fragments = draft.fragments) (sections : outline.sections = draft.sections)
    {text : String} (mem : .literal text ∈ outline.everyFragment) : kind text := by
  rw [Outline.everyFragment, fragments, sections] at mem
  rcases List.mem_append.1 mem with own | inside
  · exact h.fragments _ own _ rfl
  · obtain ⟨body, registered, inner⟩ := List.mem_flatten.1 inside
    exact h.sections body registered _ inner _ rfl

/-- **Where other marks give an outline** a document is refused for a text that holds the
opening mark, or has an outline as well and all literals are of every kind they cannot leave. -/
theorem ofDocument_refuses (kept : KeptBy format kind) {other ring : Keyring}
    (marks : ring.format = format) {outline : Outline}
    (drawn : (ofDocument document env other).1 = .ok outline) :
    (∃ text, (ofDocument document env ring).1 = .error (.reservedText text) ∧
        Text.contains text format.opening = true) ∨
      (∃ own, (ofDocument document env ring).1 = .ok own) ∧
        ∀ text, .literal text ∈ outline.everyFragment → kind text := by
  have abreast : Abreast format ⟨env, other, none⟩ ⟨env, ring, none⟩ := ⟨rfl, marks⟩
  have walk := (pairing_refuses kept).drawDocument document (fun _ _ => trivial) abreast
  unfold ofDocument at drawn ⊢
  generalize drawAll ⟨env, other, none⟩ .empty document.nodes = first at walk drawn
  generalize drawAll ⟨env, ring, none⟩ .empty document.nodes = second at walk
  obtain ⟨result, after⟩ := first
  obtain ⟨result', after'⟩ := second
  cases result with
  | error fault => cases drawn
  | ok draft =>
    obtain rfl := Except.ok.inj drawn
    rcases walk draft rfl with ⟨text, rfl, holds⟩ | ⟨⟨own, rfl⟩, -, literals⟩
    · exact .inl ⟨text, rfl, holds⟩
    · exact .inr ⟨⟨_, rfl⟩, fun text mem => literals.everyFragment rfl rfl mem⟩

/-- **All literals of an outline are of every kind they cannot leave.** -/
theorem literals_ofDocument {ring : Keyring} (kept : KeptBy ring.format kind) {outline : Outline}
    (drawn : (ofDocument document env ring).1 = .ok outline) {text : String}
    (mem : .literal text ∈ outline.everyFragment) : kind text := by
  rcases ofDocument_refuses kept rfl drawn with ⟨_, failed, -⟩ | ⟨-, literals⟩
  · cases drawn.symm.trans failed
  · exact literals text mem

end Documents

/-! ### Which literals can hold the opening mark -/

/-- A text that is put together from pieces without a mark. -/
def PiecedFrom (format : KeyFormat) (text : String) : Prop :=
  ∃ pieces : List String, text = String.join pieces ∧
    ∀ piece ∈ pieces, Text.contains piece format.opening = false

theorem keptBy_piecedFrom (format : KeyFormat) : KeptBy format (PiecedFrom format) where
  unheld text clean := ⟨[text], by simp [String.join], List.forall_mem_singleton.2 clean⟩
  appends first second := by
    rintro ⟨pieces, rfl, clean⟩ ⟨more, rfl, others⟩
    exact ⟨pieces ++ more, String.join_append.symm, List.forall_mem_append.2 ⟨clean, others⟩⟩

/-- A mark of one character cannot stand across two pieces. -/
theorem keptBy_unheld {format : KeyFormat} (single : format.opening.toList.length = 1) :
    KeptBy format fun text => Text.contains text format.opening = false where
  unheld _ clean := clean
  appends first second clean others := by
    obtain ⟨mark, opening⟩ := List.length_eq_one_iff.1 single
    have holds : ∀ text, Text.contains text format.opening = true ↔ mark ∈ text.toList := by
      intro text
      rw [Text.contains_iff, opening, List.singleton_infix_iff]
    rw [← Bool.not_eq_true, holds] at clean others ⊢
    rw [String.toList_append, List.mem_append, not_or]
    exact ⟨clean, others⟩

/-! ### A mark of several characters across two pieces -/

/-- What all share of the letters `a` and `b`: the first character of the mark, and the rest. -/
def cutMark (format : KeyFormat) (letter : Char) : Option String :=
  some (String.ofList (if letter = 'a' then format.opening.toList.take 1 else format.opening.toList.drop 1))

/-- The shared data of the two outputs. -/
def cutShared (format : KeyFormat) : Render.Scope :=
  ⟨[("a", .text (String.ofList (format.opening.toList.take 1))),
    ("b", .text (String.ofList (format.opening.toList.drop 1)))]⟩

section Cut

variable {settings : Settings} {first second : Char} {others : List Char}
  (opening : settings.format.opening.toList = first :: second :: others)

include opening

theorem rowData_cut :
    RowData settings.format ['a', 'b'] (cutMark settings.format) (fun _ => "")
      (rowEnv { settings with selector := none } (cutShared settings.format))
      (rowEnv { settings with selector := none } (cutShared settings.format)) := by
  have short : ∀ text : List Char, text.length < settings.format.opening.toList.length →
      Text.contains (String.ofList text) settings.format.opening = false := by
    intro text less
    refine Bool.eq_false_iff.2 fun found => ?_
    have inside := (Text.contains_iff.1 found).length_le
    rw [String.toList_ofList] at inside
    omega
  refine ⟨rfl, fun letter _ personal => (by cases personal), fun letter mem text own => ?_⟩
  obtain rfl := Option.some.inj own
  rcases List.mem_pair.1 mem with rfl | rfl
  · exact ⟨rfl, rfl, short _ (by simp [opening]), by simp [opening]⟩
  · exact ⟨rfl, rfl, short _ (by simp [opening]), by simp [opening]⟩

/-- **A mark of several characters gets into a literal.** -/
theorem exists_literal_of_long :
    ∃ source template shared outline text,
      Template.ofSource (Tree.Vocabulary.withBlocks []) { settings with selector := none } source =
        .ok template ∧
      (template.outline shared).1 = .ok outline ∧ .literal text ∈ outline.fragments ∧
      Text.contains text settings.format.opening = true := by
  have parsed := Tree.Document.ofSource_row (show ['a', 'b'] ⊆ Tree.rowLetters by decide)
    (Tree.Vocabulary.withBlocks [])
  obtain ⟨⟨size, ids⟩, -⟩ := Tree.Document.ids_ofSource (Tree.Vocabulary.plain_withBlocks []) parsed
  have sketch := congrArg Prod.fst (sketchAll_row (rowData_cut opening) 0 0)
  obtain ⟨outline, drawn, sketches⟩ := ofDocument_of_sketch (Keyring.regular_ofFormat settings.format)
    (ids ▸ List.nodup_range) sketch
  have whole : String.ofList (settings.format.opening.toList.take 1) ++
      String.ofList (settings.format.opening.toList.drop 1) = settings.format.opening := by
    rw [← String.toList_inj, String.toList_append, String.toList_ofList, String.toList_ofList,
      List.take_append_drop]
  have fragments : outline.fragments = [.literal settings.format.opening] := by
    rw [sketches.fragments, ← whole]
    rfl
  refine ⟨Tree.rowSource ['a', 'b'],
    ⟨⟨(Tree.rowFrom 0 0 ['a', 'b']).map .output⟩, { settings with selector := none },
      Render.standardFilters, .ofFormat settings.format⟩,
    cutShared settings.format, outline, settings.format.opening, ?_, ?_, ?_, ?_⟩
  · rw [Template.ofSource, parsed]
    rfl
  -- unfolded here, so that the outline itself is not computed
  · dsimp only [Template.outline]
    exact drawn
  · rw [fragments]
    exact List.mem_singleton_self _
  · exact Text.contains_self _

end Cut

/-- **Which literals can hold the opening mark,** for marks that pass the check of settings.
Whatever the document, the environment and the keys handed out before, a literal of an
outline or of one of its sections is put together from pieces without the mark. If the mark
is one character no literal holds it, and a document of which other marks give a literal
with the mark is refused, for a text that holds it. If the mark is longer, some template has
a literal with the mark. -/
theorem KeyFormat.literals_of_check {settings : Settings} (checked : settings.check = .ok ()) :
    (∀ document env ring outline, ring.format = settings.format →
      (ofDocument document env ring).1 = .ok outline →
        ∀ text, .literal text ∈ outline.everyFragment → PiecedFrom settings.format text) ∧
    (settings.format.opening.toList.length = 1 → ∀ document env ring, ring.format = settings.format →
      (∀ outline, (ofDocument document env ring).1 = .ok outline →
        ∀ text, .literal text ∈ outline.everyFragment →
          Text.contains text settings.format.opening = false) ∧
      ∀ other outline text, (ofDocument document env other).1 = .ok outline →
        .literal text ∈ outline.everyFragment → Text.contains text settings.format.opening = true →
          ∃ piece, (ofDocument document env ring).1 = .error (.reservedText piece) ∧
            Text.contains piece settings.format.opening = true) ∧
    (settings.format.opening.toList.length ≠ 1 →
      ∃ source template shared outline text,
        Template.ofSource (Tree.Vocabulary.withBlocks []) { settings with selector := none } source =
          .ok template ∧
        (template.outline shared).1 = .ok outline ∧ .literal text ∈ outline.fragments ∧
        Text.contains text settings.format.opening = true) := by
  refine ⟨?_, fun single document env ring marks => ⟨?_, ?_⟩, fun several => ?_⟩
  · intro document env ring outline marks drawn text mem
    rw [← marks]
    exact literals_ofDocument (keptBy_piecedFrom _) drawn mem
  · intro outline drawn text mem
    rw [← marks] at single ⊢
    exact literals_ofDocument (keptBy_unheld single) drawn mem
  · intro other outline text drawn mem holds
    rcases ofDocument_refuses (keptBy_unheld single) marks drawn with refused | ⟨-, clean⟩
    · exact refused
    · cases holds.symm.trans (clean text mem)
  · obtain ⟨nonempty, -⟩ := opening_of_check checked
    match opening : settings.format.opening.toList with
    | [] => exact absurd opening nonempty
    | [_] => exact absurd (congrArg List.length opening) several
    | first :: second :: others => exact exists_literal_of_long opening

/-- The standard mark is in no literal. Two angle brackets are in one, each of them from an
output of its own. -/
theorem KeyFormat.literals_of_check_brackets :
    let brackets : Settings := { Settings.standard with format := ⟨"<<", ">>"⟩ }
    Settings.standard.check = .ok () ∧
      (∀ document env ring outline, ring.format = Settings.standard.format →
        (ofDocument document env ring).1 = .ok outline → ∀ text, .literal text ∈ outline.everyFragment →
          Text.contains text Settings.standard.format.opening = false) ∧
      brackets.check = .ok () ∧
      ∃ source template shared outline text,
        Template.ofSource (Tree.Vocabulary.withBlocks []) { brackets with selector := none } source =
          .ok template ∧
        (template.outline shared).1 = .ok outline ∧ .literal text ∈ outline.fragments ∧
        Text.contains text "<<" = true := by
  intro brackets
  have standard : Settings.standard.check = .ok () := by decide +kernel
  have accepted : brackets.check = .ok () := by decide +kernel
  refine ⟨standard, fun document env ring outline marks => ?_, accepted, ?_⟩
  · exact ((literals_of_check standard).2.1 rfl document env ring marks).1 outline
  · exact (literals_of_check accepted).2.2 (by decide +kernel)

end Outline
end MailMerge
