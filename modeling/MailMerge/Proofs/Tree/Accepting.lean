/-
# Trees that are read back

A template whose segments show a tree, written out, is accepted and has that tree, up to
the places and the numbers in it, which follow from the source. This holds where no tag can
be taken for another: no tag of the vocabulary is named `else`, `elsif` or like the closing
tag of another one.

The argument follows the tree. From any state of the assembly in which the innermost open
block is not closed by a tag of the vocabulary, the segments of a node add that node to
the block, whatever stands around it.
-/

import MailMerge.Proofs.DictPairs
import MailMerge.Proofs.Tree.Marks

namespace MailMerge
namespace Tree

open Source (Segment TagHead)
open Markup (Condition)

/-! ### Trees without numbers and places -/

/-- The head of a tag without its place. -/
def bareHead (head : TagHead) : TagHead := { head with markupStart := 0, span := ⟨0, 0⟩ }

/-- An output without its number and place. -/
def Output.bare (output : Output) : Output := { output with id := 0, span := ⟨0, 0⟩ }

mutual

/-- A node without the numbers and places in it. -/
def Node.bare : Node → Node
  | .text raw => .text raw
  | .output output => .output output.bare
  | .tag head action => .tag (bareHead head) action
  | .block head body => .block (bareHead head) (bareAll body)
  | .conditional head branches => .conditional (bareHead head) (bareBranches branches)
termination_by structural node => node

/-- **Nodes without the numbers and places in them:** what a tree says. -/
def bareAll : List Node → List Node
  | [] => []
  | node :: nodes => node.bare :: bareAll nodes
termination_by structural nodes => nodes

/-- Branches without the numbers and places in them. -/
def bareBranches : List (Branch Node) → List (Branch Node)
  | [] => []
  | ⟨_, predicate, body⟩ :: branches => ⟨0, predicate, bareAll body⟩ :: bareBranches branches
termination_by structural branches => branches

end

/-- A mark without the numbers and places in it. -/
def Mark.bare : Mark → Mark
  | .text raw => .text raw
  | .output source => .output source.bare
  | .tag head action => .tag (bareHead head) action
  | .block head => .block (bareHead head)
  | .conditional head predicate => .conditional (bareHead head) predicate
  | .next predicate => .next predicate
  | .closing name => .closing name

/-! ### Vocabularies -/

/-- **A usual tag:** `if`, `break` or `continue` under its own name, or a plain block. -/
inductive TagRule.Usual : String → TagRule → Prop
  | conditional : Usual "if" .conditional
  | break : Usual "break" (.interrupt .break)
  | continue : Usual "continue" (.interrupt .continue)
  | block (name : String) : Usual name (.block .plain)

/-- All tags of a vocabulary are usual. -/
def Vocabulary.Usual (vocabulary : Vocabulary) : Prop :=
  ∀ name rule, vocabulary.find? name = some rule → TagRule.Usual name rule

theorem Vocabulary.Usual.plain {vocabulary : Vocabulary} (h : vocabulary.Usual) : vocabulary.Plain := by
  intro name rule known
  cases h name rule known with
  | conditional => exact .conditional
  | «break» => exact .interrupt .break
  | «continue» => exact .interrupt .continue
  | block => exact .block

theorem Vocabulary.Usual.insert {vocabulary : Vocabulary} (h : vocabulary.Usual) {name : String}
    {rule : TagRule} (usual : TagRule.Usual name rule) :
    Vocabulary.Usual (Dict.insert vocabulary name rule) := by
  intro other found known
  rw [Dict.find?_insert] at known
  split at known
  · rename_i same
    obtain rfl := Option.some.inj known
    exact same ▸ usual
  · exact h other found known

/-- The standard tags and plain blocks are usual. -/
theorem Vocabulary.usual_withBlocks (names : List String) : (Vocabulary.withBlocks names).Usual := by
  have general : ∀ vocabulary : Vocabulary, vocabulary.Usual → Vocabulary.Usual
      (names.foldl (fun table name => table.insert name (.block .plain)) vocabulary) := by
    induction names with
    | nil => exact fun _ h => h
    | cons name rest ih => exact fun vocabulary h => ih _ (h.insert (.block name))
  have empty : Vocabulary.Usual (∅ : Dict TagRule) := fun _ _ h => by simp at h
  exact general _ (((empty.insert .conditional).insert .break).insert .continue)

/-- **No tag can be taken for another:** no name is `else`, `elsif` or `end` before a name. -/
def Vocabulary.Unambiguous (vocabulary : Vocabulary) : Prop :=
  ∀ name ∈ vocabulary.keys,
    name ≠ "else" ∧ name ≠ "elsif" ∧ ∀ other ∈ vocabulary.keys, name ≠ "end" ++ other

instance (vocabulary : Vocabulary) : Decidable vocabulary.Unambiguous :=
  inferInstanceAs (Decidable (∀ name ∈ vocabulary.keys,
    name ≠ "else" ∧ name ≠ "elsif" ∧ ∀ other ∈ vocabulary.keys, name ≠ "end" ++ other))

/-- **What a vocabulary leaves open:** the tags that close its blocks and conditionals, and
those that start further branches. -/
structure Vocabulary.Leaves (vocabulary : Vocabulary) : Prop where
  plain : vocabulary.Plain
  other : vocabulary.find? "else" = none
  further : vocabulary.find? "elsif" = none
  conditional : ∀ {name}, vocabulary.find? name = some .conditional → vocabulary.find? "endif" = none
  closing : ∀ {name rule}, vocabulary.find? name = some rule → vocabulary.find? ("end" ++ name) = none

theorem Vocabulary.Unambiguous.leaves {vocabulary : Vocabulary} (h : vocabulary.Unambiguous)
    (usual : vocabulary.Usual) : vocabulary.Leaves := by
  have missing : ∀ {name}, name ∉ vocabulary.keys → vocabulary.find? name = none := Dict.findIn_eq_none_iff.2
  have closing : ∀ {name rule}, vocabulary.find? name = some rule →
      vocabulary.find? ("end" ++ name) = none := fun known =>
    missing fun mem => (h _ mem).2.2 _ (Dict.mem_keys_iff.2 ⟨_, Dict.mem_pairs_of_find? known⟩) rfl
  refine ⟨usual.plain, missing fun mem => (h _ mem).1 rfl, missing fun mem => (h _ mem).2.1 rfl,
    fun known => ?_, closing⟩
  cases usual _ _ known with
  | conditional => exact closing known

/-! ### States that a tree can be read in -/

section

variable {vocabulary : Vocabulary} {assembly middle next : Assembly} {segment : Segment}
  {head : TagHead}

/-- **A state in which nodes can be read:** no tag waits for the next segment, and the innermost
open block is not closed by a tag of the vocabulary. -/
structure Assembly.Ready (vocabulary : Vocabulary) (assembly : Assembly) : Prop where
  waiting : assembly.waiting = none
  open' : ∀ block ∈ assembly.blocks.head?, vocabulary.find? block.closingTag = none

/-- An assembly with more nodes in its innermost block, and the next number. -/
def Assembly.grown (assembly : Assembly) (nodes : List Node) (count : Nat) : Assembly :=
  { nodes.foldl push assembly with nextId := count }

/-- An open block with more nodes. -/
def OpenBlock.grown (block : OpenBlock) (nodes : List Node) : OpenBlock := nodes.foldl push block

theorem Assembly.foldl_push_nextId (assembly : Assembly) (nodes : List Node) (count : Nat) :
    nodes.foldl push { assembly with nextId := count } =
      { nodes.foldl push assembly with nextId := count } := by
  induction nodes generalizing assembly with
  | nil => rfl
  | cons node nodes ih =>
    have same : Assembly.push { assembly with nextId := count } node =
        { assembly.push node with nextId := count } := by
      unfold push
      dsimp only
      split <;> rfl
    rw [List.foldl_cons, List.foldl_cons, same, ih]

theorem Assembly.grown_grown (assembly : Assembly) (first second : List Node) (count last : Nat) :
    (assembly.grown first count).grown second last = assembly.grown (first ++ second) last := by
  unfold grown
  rw [foldl_push_nextId, List.foldl_append]

theorem Assembly.grown_of_blocks {block : OpenBlock} {outer : List OpenBlock}
    (h : assembly.blocks = block :: outer) (nodes : List Node) (count : Nat) :
    assembly.grown nodes count =
      { assembly with blocks := block.grown nodes :: outer, nextId := count } := by
  obtain ⟨own, blocks, nextId, waiting⟩ := assembly
  obtain rfl : blocks = block :: outer := h
  induction nodes generalizing block with
  | nil => rfl
  | cons node nodes ih => exact ih

theorem OpenBlock.grown_block (head : TagHead) (policy : BlockPolicy) (done nodes : List Node) :
    OpenBlock.grown ⟨head, .block policy done⟩ nodes = ⟨head, .block policy (nodes.reverse ++ done)⟩ := by
  induction nodes generalizing done with
  | nil => rfl
  | cons node nodes ih =>
    rw [List.reverse_cons, List.append_assoc]
    exact ih (node :: done)

theorem OpenBlock.grown_conditional (head : TagHead) (done : List (Branch Node)) (id : Nat)
    (predicate : Option Condition) (own nodes : List Node) :
    OpenBlock.grown ⟨head, .conditional done id predicate own⟩ nodes =
      ⟨head, .conditional done id predicate (nodes.reverse ++ own)⟩ := by
  induction nodes generalizing own with
  | nil => rfl
  | cons node nodes ih =>
    rw [List.reverse_cons, List.append_assoc]
    exact ih (node :: own)

theorem OpenBlock.close_grown_block (head : TagHead) (policy : BlockPolicy) (nodes : List Node) :
    (OpenBlock.grown ⟨head, .block policy []⟩ nodes).close = .block head nodes := by
  rw [grown_block, List.append_nil]
  exact congrArg (Node.block head) nodes.reverse_reverse

theorem OpenBlock.grown_branch (head : TagHead) (done : List (Branch Node)) (id : Nat)
    (predicate : Option Condition) (nodes : List Node) :
    OpenBlock.grown ⟨head, .conditional done id predicate []⟩ nodes =
      ⟨head, .conditional done id predicate nodes.reverse⟩ := by
  rw [grown_conditional, List.append_nil]

theorem OpenBlock.closingTag_grown (block : OpenBlock) (nodes : List Node) :
    (block.grown nodes).closingTag = block.closingTag := by
  obtain ⟨head, body⟩ := block
  cases body with
  | block policy done => rw [grown_block]; rfl
  | conditional done id predicate own => rw [grown_conditional]; rfl

theorem Assembly.grown_of_no_block (h : assembly.blocks = []) (nodes : List Node) (count : Nat) :
    assembly.grown nodes count =
      { assembly with nodes := nodes.reverse ++ assembly.nodes, nextId := count } := by
  obtain ⟨own, blocks, nextId, waiting⟩ := assembly
  obtain rfl : blocks = [] := h
  induction nodes generalizing own with
  | nil => rfl
  | cons node nodes ih =>
    rw [List.reverse_cons, List.append_assoc]
    exact ih (node :: own)

theorem Assembly.Ready.grown (h : assembly.Ready vocabulary) (nodes : List Node) (count : Nat) :
    (assembly.grown nodes count).Ready vocabulary := by
  cases blocks : assembly.blocks with
  | nil =>
    rw [grown_of_no_block blocks]
    exact ⟨h.waiting, h.open'⟩
  | cons block outer =>
    rw [grown_of_blocks blocks]
    refine ⟨h.waiting, fun other mem => ?_⟩
    obtain rfl := Option.some.inj mem
    rw [OpenBlock.closingTag_grown]
    exact h.open' block (by rw [blocks]; rfl)

/-- No tag of the vocabulary closes a conditional. -/
theorem Assembly.Ready.conditional (ready : assembly.Ready vocabulary)
    (unknown : vocabulary.find? "endif" = none) (head : TagHead) (done : List (Branch Node)) (id : Nat)
    (predicate : Option Condition) (nodes : List Node) (outer : List OpenBlock) (count : Nat) :
    Ready vocabulary { assembly with
      blocks := ⟨head, .conditional done id predicate nodes⟩ :: outer, nextId := count } := by
  refine ⟨ready.waiting, fun block mem => ?_⟩
  obtain rfl := Option.some.inj mem
  exact unknown

/-- The assembly goes on with the second segments where the first ones left it. -/
theorem Assembly.steps_append {first second : List Segment}
    (h : assembly.steps vocabulary first = .ok middle) :
    assembly.steps vocabulary (first ++ second) = middle.steps vocabulary second := by
  induction first generalizing assembly with
  | nil =>
    obtain rfl := Except.ok.inj h
    rfl
  | cons segment rest ih =>
    rw [List.cons_append, steps]
    rw [steps] at h
    split at h
    · cases h
    · exact ih h

theorem Assembly.steps_cons {rest : List Segment} (h : assembly.step vocabulary segment = .ok middle) :
    assembly.steps vocabulary (segment :: rest) = middle.steps vocabulary rest := by
  rw [steps, h]

/-! ### One segment -/

theorem Assembly.Ready.step_tag (ready : assembly.Ready vocabulary) (kind : segment.kind = .tag)
    (split : TagHead.ofRaw? segment.raw segment.span = some head) :
    assembly.step vocabulary segment = assembly.tag vocabulary head := by
  rw [Assembly.step, ready.waiting, kind]
  dsimp only
  rw [split]

/-- A tag of the vocabulary does not close the innermost block. -/
theorem Assembly.Ready.tag_known (ready : assembly.Ready vocabulary) {rule : TagRule}
    (known : vocabulary.find? head.name = some rule) :
    assembly.tag vocabulary head = assembly.knownTag head rule := by
  have kept : assembly.closedBy? head = none := by
    unfold closedBy?
    split
    · rfl
    · rename_i block outer blocks
      refine if_neg fun same => ?_
      have unknown := ready.open' block (by rw [blocks]; rfl)
      rw [← same, known] at unknown
      cases unknown
  rw [tag, kept]
  dsimp only
  rw [known]

theorem Assembly.tag_closing {block : OpenBlock} {outer : List OpenBlock}
    (blocks : assembly.blocks = block :: outer) (name : head.name = block.closingTag) :
    assembly.tag vocabulary head = .ok (Assembly.push { assembly with blocks := outer } block.close) := by
  rw [tag, closedBy?, blocks]
  dsimp only
  rw [if_pos name]

/-- A closing tag is shown where its block stands open. -/
theorem Assembly.Ready.step_closing (ready : assembly.Ready vocabulary) {block : OpenBlock}
    {outer : List OpenBlock} (blocks : assembly.blocks = block :: outer) {name : String}
    (closingTag : block.closingTag = "end" ++ name) (shows : Shows vocabulary segment (.closing name)) :
    assembly.step vocabulary segment =
      .ok (Assembly.push { assembly with blocks := outer } block.close) := by
  cases shows with
  | closing kind split named =>
    rw [ready.step_tag kind split]
    exact tag_closing blocks (named.trans closingTag.symm)

/-- A further branch is shown where a conditional stands open. -/
theorem Assembly.Ready.step_next (ready : assembly.Ready vocabulary) (leaves : vocabulary.Leaves)
    {done : List (Branch Node)} {id : Nat} {own predicate : Option Condition} {nodes : List Node}
    {outer : List OpenBlock} (blocks : assembly.blocks = ⟨head, .conditional done id own nodes⟩ :: outer)
    (shows : Shows vocabulary segment (.next predicate)) :
    assembly.step vocabulary segment = .ok { assembly with
      blocks := ⟨head, .conditional (done ++ [⟨id, own, nodes.reverse⟩]) assembly.nextId predicate []⟩ ::
        outer
      nextId := assembly.nextId + 1 } := by
  have unknown : ∀ {tag : TagHead}, tag.name ≠ "endif" → vocabulary.find? tag.name = none →
      assembly.tag vocabulary tag = assembly.unknownTag tag := by
    intro tag name missing
    have kept : assembly.closedBy? tag = none := by
      rw [closedBy?, blocks]
      exact if_neg name
    rw [Assembly.tag, kept]
    dsimp only
    rw [missing]
  cases shows with
  | elsif kind split name read =>
    rw [ready.step_tag kind split, unknown (by rw [name]; decide) (name ▸ leaves.further), unknownTag, blocks]
    dsimp only
    rw [if_pos name, read]
    rfl
  | «else» kind split name =>
    rw [ready.step_tag kind split, unknown (by rw [name]; decide) (name ▸ leaves.other), unknownTag, blocks]
    dsimp only
    rw [if_neg (by rw [name]; decide), if_pos name]
    rfl

/-! ### A tree is read back -/

/-- Segments that are not empty and show marks. -/
abbrev ShowAll (vocabulary : Vocabulary) (segments : List Segment) (marks : List Mark) : Prop :=
  List.Forall₂ (fun segment mark => segment.raw.isEmpty = false ∧ Shows vocabulary segment mark)
    segments marks

theorem ShowAll.split {segments : List Segment} {first second : List Mark}
    (h : ShowAll vocabulary segments (first ++ second)) :
    ∃ before after, segments = before ++ after ∧ ShowAll vocabulary before first ∧
      ShowAll vocabulary after second :=
  ⟨_, _, (List.take_append_drop first.length segments).symm, List.forall₂_take_append _ _ _ h,
    List.forall₂_drop_append _ _ _ h⟩

/-- **An assembly that reads nodes:** the segments add them, up to numbers and places, to the
innermost open block. -/
def Assembly.Reads (vocabulary : Vocabulary) (assembly : Assembly) (segments : List Segment)
    (nodes : List Node) : Prop :=
  ∃ read count, bareAll read = bareAll nodes ∧
    assembly.steps vocabulary segments = .ok (assembly.grown read count)

/-- **Nodes that are read back** wherever they are shown. -/
def ReadBack (vocabulary : Vocabulary) (nodes : List Node) : Prop :=
  ∀ ⦃assembly : Assembly⦄ ⦃segments : List Segment⦄, assembly.Ready vocabulary →
    ShowAll vocabulary segments (marksOf nodes) → assembly.Reads vocabulary segments nodes

theorem Assembly.push_withId (assembly : Assembly) (node : Node) (count : Nat) :
    Assembly.push { assembly with nextId := count } node = assembly.grown [node] count :=
  foldl_push_nextId assembly [node] count

theorem Assembly.grown_self (assembly : Assembly) (node : Node) :
    assembly.grown [node] assembly.nextId = assembly.push node :=
  (assembly.push_withId node assembly.nextId).symm

theorem readBack_text (raw : String) : ReadBack vocabulary [.text raw] := by
  intro assembly segments ready shown
  obtain ⟨segment, rest, ⟨full, shows⟩, tail, rfl⟩ := List.forall₂_cons_right_iff.1 shown
  obtain rfl := List.forall₂_nil_right_iff.1 tail
  cases shows with
  | text kind =>
    refine ⟨[.text segment.raw], assembly.nextId, rfl, Assembly.steps_cons ?_⟩
    rw [Assembly.grown_self, Assembly.step, ready.waiting, kind]
    dsimp only
    rw [full]
    rfl

theorem readBack_output (output : Output) : ReadBack vocabulary [.output output] := by
  intro assembly segments ready shown
  obtain ⟨segment, rest, ⟨-, shows⟩, tail, rfl⟩ := List.forall₂_cons_right_iff.1 shown
  obtain rfl := List.forall₂_nil_right_iff.1 tail
  cases shows with
  | output kind found markup read span =>
    refine ⟨[.output { output with id := assembly.nextId }], assembly.nextId + 1, rfl,
      Assembly.steps_cons ?_⟩
    rw [Assembly.step, ready.waiting, kind]
    dsimp only
    rw [Assembly.output, found]
    dsimp only
    rw [read, ← markup, ← span]
    rfl

theorem readBack_tag (tag : TagHead) (action : TagAction) : ReadBack vocabulary [.tag tag action] := by
  intro assembly segments ready shown
  obtain ⟨segment, rest, ⟨-, shows⟩, tail, rfl⟩ := List.forall₂_cons_right_iff.1 shown
  obtain rfl := List.forall₂_nil_right_iff.1 tail
  cases shows with
  | tag kind split known =>
    refine ⟨[.tag tag action], assembly.nextId, rfl, Assembly.steps_cons ?_⟩
    rw [Assembly.grown_self, ready.step_tag kind split, ready.tag_known known]
    cases action <;> rfl

/-- **A block is read back** if its body is. -/
theorem readBack_block (leaves : vocabulary.Leaves) {body : List Node} (inner : ReadBack vocabulary body) :
    ReadBack vocabulary [.block head body] := by
  intro assembly segments ready shown
  rw [marksOf_singleton, Node.marks] at shown
  obtain ⟨opening, rest, ⟨-, opens⟩, tail, rfl⟩ := List.forall₂_cons_right_iff.1 shown
  obtain ⟨within, after, rfl, bodyShown, afterShown⟩ := ShowAll.split tail
  obtain ⟨closing, last, ⟨-, closes⟩, none, rfl⟩ := List.forall₂_cons_right_iff.1 afterShown
  obtain rfl := List.forall₂_nil_right_iff.1 none
  cases opens with
  | block kind split known =>
    cases leaves.plain _ _ known with
    | block =>
      have opened : assembly.step vocabulary opening = .ok (assembly.open ⟨head, .block .plain []⟩) := by
        rw [ready.step_tag kind split, ready.tag_known known]
        rfl
      have inside : (assembly.open ⟨head, .block .plain []⟩).Ready vocabulary := by
        refine ⟨ready.waiting, fun block mem => ?_⟩
        obtain rfl := Option.some.inj mem
        exact leaves.closing known
      obtain ⟨read, count, same, steps⟩ := inner inside bodyShown
      have blocks : ((assembly.open ⟨head, .block .plain []⟩).grown read count).blocks =
          OpenBlock.grown ⟨head, .block .plain []⟩ read :: assembly.blocks := by
        rw [Assembly.grown_of_blocks rfl]
      refine ⟨[.block head read], count, by simp only [bareAll, Node.bare, same], ?_⟩
      rw [Assembly.steps_cons opened, Assembly.steps_append steps]
      refine Assembly.steps_cons ?_
      rw [(inside.grown read count).step_closing blocks (OpenBlock.closingTag_grown _ _) closes,
        OpenBlock.close_grown_block, Assembly.grown_of_blocks rfl]
      exact congrArg Except.ok (assembly.push_withId _ count)

/-- **Further branches that are read back** wherever a conditional stands open: the segments add
them, up to numbers and places, to its branches. -/
def BranchesReadBack (vocabulary : Vocabulary) (branches : List (Branch Node)) : Prop :=
  ∀ ⦃assembly : Assembly⦄ ⦃segments : List Segment⦄ ⦃head : TagHead⦄ ⦃done : List (Branch Node)⦄
    ⦃id : Nat⦄ ⦃own : Option Condition⦄ ⦃nodes : List Node⦄ ⦃outer : List OpenBlock⦄,
    assembly.Ready vocabulary →
    assembly.blocks = ⟨head, .conditional done id own nodes⟩ :: outer →
    ShowAll vocabulary segments (marksOfBranches branches) →
    ∃ read done' id' own' nodes' count, bareBranches read = bareBranches branches ∧
      done' ++ [⟨id', own', nodes'.reverse⟩] = done ++ ⟨id, own, nodes.reverse⟩ :: read ∧
        assembly.steps vocabulary segments = .ok { assembly with
          blocks := ⟨head, .conditional done' id' own' nodes'⟩ :: outer, nextId := count }

theorem branchesReadBack_nil : BranchesReadBack vocabulary [] := by
  intro assembly segments head done id own nodes outer ready blocks shown
  obtain rfl := List.forall₂_nil_right_iff.1 shown
  refine ⟨[], done, id, own, nodes, assembly.nextId, rfl, rfl, ?_⟩
  rw [Assembly.steps, ← blocks]

theorem branchesReadBack_cons (leaves : vocabulary.Leaves) (number : Nat) (predicate : Option Condition)
    {body : List Node} {branches : List (Branch Node)} (inner : ReadBack vocabulary body)
    (later : BranchesReadBack vocabulary branches) :
    BranchesReadBack vocabulary (⟨number, predicate, body⟩ :: branches) := by
  intro assembly segments head done id own nodes outer ready blocks shown
  rw [marksOfBranches] at shown
  obtain ⟨start, rest, ⟨-, starts⟩, tail, rfl⟩ := List.forall₂_cons_right_iff.1 shown
  obtain ⟨within, after, rfl, bodyShown, branchesShown⟩ := ShowAll.split tail
  have started := ready.step_next leaves blocks starts
  have unknown := ready.open' _ (by rw [blocks]; rfl)
  have open' := ready.conditional unknown head (done ++ [⟨id, own, nodes.reverse⟩]) assembly.nextId predicate
  obtain ⟨read, count, same, steps⟩ := inner (open' [] outer (assembly.nextId + 1)) bodyShown
  rw [Assembly.grown_of_blocks rfl, OpenBlock.grown_branch] at steps
  obtain ⟨further, done', id', own', nodes', last, sameFurther, chain, stepsFurther⟩ :=
    later (open' read.reverse outer count) rfl branchesShown
  refine ⟨⟨assembly.nextId, predicate, read⟩ :: further, done', id', own', nodes', last,
    by simp only [bareBranches, same, sameFurther], ?_, ?_⟩
  · rw [chain, List.append_assoc, List.reverse_reverse]
    rfl
  · rw [Assembly.steps_cons started, Assembly.steps_append steps]
    exact stepsFurther

/-- **A conditional is read back** if its bodies are. -/
theorem readBack_conditional (leaves : vocabulary.Leaves) (number : Nat) (predicate : Option Condition)
    {body : List Node} {branches : List (Branch Node)} (inner : ReadBack vocabulary body)
    (later : BranchesReadBack vocabulary branches) :
    ReadBack vocabulary [.conditional head (⟨number, predicate, body⟩ :: branches)] := by
  intro assembly segments ready shown
  rw [marksOf_singleton, Node.marks] at shown
  obtain ⟨start, rest, ⟨-, starts⟩, tail, rfl⟩ := List.forall₂_cons_right_iff.1 shown
  obtain ⟨within, after, rfl, bodyShown, afterShown⟩ := ShowAll.split tail
  obtain ⟨further, last, rfl, branchesShown, lastShown⟩ := ShowAll.split afterShown
  obtain ⟨closing, empty, ⟨-, closes⟩, none, rfl⟩ := List.forall₂_cons_right_iff.1 lastShown
  obtain rfl := List.forall₂_nil_right_iff.1 none
  cases starts with
  | conditional kind split known readPredicate =>
    rename_i condition
    have started : assembly.step vocabulary start = .ok { assembly with
        blocks := ⟨head, .conditional [] assembly.nextId (some condition) []⟩ :: assembly.blocks
        nextId := assembly.nextId + 1 } := by
      rw [ready.step_tag kind split, ready.tag_known known, Assembly.knownTag, readPredicate]
      rfl
    have unknown := leaves.conditional known
    have open' := ready.conditional unknown head [] assembly.nextId (some condition)
    obtain ⟨read, count, same, steps⟩ := inner (open' [] assembly.blocks (assembly.nextId + 1)) bodyShown
    rw [Assembly.grown_of_blocks rfl, OpenBlock.grown_branch] at steps
    obtain ⟨more, done, id, own, nodes, count, sameMore, chain, stepsMore⟩ :=
      later (open' read.reverse assembly.blocks count) rfl branchesShown
    refine ⟨[.conditional head (⟨assembly.nextId, some condition, read⟩ :: more)], count,
      by simp only [bareAll, Node.bare, bareBranches, same, sameMore], ?_⟩
    rw [Assembly.steps_cons started, Assembly.steps_append steps, Assembly.steps_append stepsMore]
    refine Assembly.steps_cons ?_
    have closed : OpenBlock.close ⟨head, .conditional done id own nodes⟩ =
        .conditional head (⟨assembly.nextId, some condition, read⟩ :: more) := by
      refine congrArg (Node.conditional head) (chain.trans ?_)
      rw [List.nil_append, List.reverse_reverse]
    rw [(ready.conditional unknown _ _ _ _ _ _ _).step_closing rfl rfl closes, closed]
    exact congrArg Except.ok (assembly.push_withId _ count)

theorem readBack_nil : ReadBack vocabulary [] := by
  intro assembly segments ready shown
  obtain rfl := List.forall₂_nil_right_iff.1 shown
  exact ⟨[], assembly.nextId, rfl, rfl⟩

theorem bareAll_append (first second : List Node) :
    bareAll (first ++ second) = bareAll first ++ bareAll second := by
  induction first with
  | nil => rfl
  | cons node nodes ih => rw [List.cons_append, bareAll, bareAll, ih, List.cons_append]

/-- **Nodes that follow one another are read back** if each part is. -/
theorem ReadBack.append {first second : List Node} (before : ReadBack vocabulary first)
    (after : ReadBack vocabulary second) : ReadBack vocabulary (first ++ second) := by
  intro assembly segments ready shown
  rw [marksOf_append] at shown
  obtain ⟨front, back, rfl, frontShown, backShown⟩ := ShowAll.split shown
  obtain ⟨read, count, same, steps⟩ := before ready frontShown
  obtain ⟨more, last, sameMore, stepsMore⟩ := after (ready.grown read count) backShown
  refine ⟨read ++ more, last, ?_, ?_⟩
  · rw [bareAll_append, bareAll_append, same, sameMore]
  · rw [Assembly.steps_append steps, stepsMore, Assembly.grown_grown]

end

mutual

/-- A node is read back. -/
theorem readBack_node {vocabulary : Vocabulary} (leaves : vocabulary.Leaves) (node : Node) :
    ReadBack vocabulary [node] := by
  match node with
  | .text raw => exact readBack_text raw
  | .output output => exact readBack_output output
  | .tag head action => exact readBack_tag head action
  | .block head body => exact readBack_block leaves (readBack leaves body)
  | .conditional head [] =>
    -- Without a first predicate there is no tag that could open the conditional.
    intro assembly segments ready shown
    obtain ⟨segment, rest, ⟨-, shows⟩, -⟩ := List.forall₂_cons_right_iff.1 shown
    cases shows
  | .conditional head (⟨number, predicate, body⟩ :: branches) =>
    exact readBack_conditional leaves number predicate (readBack leaves body)
      (branchesReadBack leaves branches)
termination_by structural node

/-- **Nodes are read back.** -/
theorem readBack {vocabulary : Vocabulary} (leaves : vocabulary.Leaves) (nodes : List Node) :
    ReadBack vocabulary nodes := by
  match nodes with
  | [] => exact readBack_nil
  | node :: nodes => exact ReadBack.append (readBack_node leaves node) (readBack leaves nodes)
termination_by structural nodes

/-- Further branches are read back. -/
theorem branchesReadBack {vocabulary : Vocabulary} (leaves : vocabulary.Leaves)
    (branches : List (Branch Node)) : BranchesReadBack vocabulary branches := by
  match branches with
  | [] => exact branchesReadBack_nil
  | ⟨number, predicate, body⟩ :: branches =>
    exact branchesReadBack_cons leaves number predicate (readBack leaves body)
      (branchesReadBack leaves branches)
termination_by structural branches

end

/-- A template whose segments show a tree has that tree. -/
theorem Document.ofSource_of_shows {vocabulary : Vocabulary} (leaves : vocabulary.Leaves) {source : String}
    {nodes : List Node}
    (shown : List.Forall₂ (Shows vocabulary) (Source.segments source) (marksOf nodes)) :
    ∃ document, Document.ofSource vocabulary source = .ok document ∧
      bareAll document.nodes = bareAll nodes := by
  have ready : Assembly.start.Ready vocabulary := ⟨rfl, fun _ mem => nomatch mem⟩
  have full : ShowAll vocabulary (Source.segments source) (marksOf nodes) :=
    (List.forall₂_and_left _ _).2 ⟨fun _ mem => Source.nonempty_segments mem, shown⟩
  obtain ⟨read, count, same, steps⟩ := readBack leaves nodes ready full
  rw [Assembly.grown_of_no_block rfl] at steps
  refine ⟨⟨(read.reverse ++ []).reverse⟩, ?_, ?_⟩
  · rw [ofSource, steps]
    rfl
  · rw [List.append_nil, List.reverse_reverse, same]

/-! ### Trees with other places -/

theorem eq_closing {mark : Mark} {name : String} (h : mark.bare = Mark.bare (.closing name)) :
    mark = .closing name := by
  cases mark with
  | closing other => exact h
  | _ => cases h

mutual

/-- Marks that differ from those of a node in numbers and places are those of such a node. -/
theorem exists_node (node : Node) {marks : List Mark}
    (h : marks.map Mark.bare = node.marks.map Mark.bare) :
    ∃ other : Node, other.marks = marks ∧ other.bare = node.bare := by
  match node with
  | .text raw =>
    obtain ⟨mark, rfl, alike⟩ := List.map_eq_singleton_iff.1 h
    cases mark with
    | text own => exact ⟨.text own, rfl, by cases alike; rfl⟩
    | _ => cases alike
  | .output output =>
    obtain ⟨mark, rfl, alike⟩ := List.map_eq_singleton_iff.1 h
    cases mark with
    | output own => exact ⟨.output own, rfl, congrArg Node.output (Mark.output.inj alike)⟩
    | _ => cases alike
  | .tag head action =>
    obtain ⟨mark, rfl, alike⟩ := List.map_eq_singleton_iff.1 h
    cases mark with
    | tag own act =>
      obtain ⟨same, rfl⟩ := Mark.tag.inj alike
      exact ⟨.tag own act, rfl, congrArg (Node.tag · act) same⟩
    | _ => cases alike
  | .block head body =>
    rw [Node.marks, List.map_cons, List.map_append] at h
    obtain ⟨opening, rest, rfl, opens, tail⟩ := List.map_eq_cons_iff.1 h
    obtain ⟨within, last, rfl, here, closes⟩ := List.map_eq_append_iff.1 tail
    obtain ⟨closing, rfl, ends⟩ := List.map_eq_singleton_iff.1 closes
    obtain ⟨inner, rfl, same⟩ := exists_nodes body here
    cases opening with
    | block own =>
      have alike : bareHead own = bareHead head := Mark.block.inj opens
      have name := congrArg TagHead.name alike
      obtain rfl := eq_closing ends
      refine ⟨.block own inner, ?_, by rw [Node.bare, Node.bare, alike, same]⟩
      rw [Node.marks, show own.name = head.name from name]
    | _ => cases opens
  | .conditional head [] =>
    rw [Node.marks, List.map_cons] at h
    obtain ⟨opening, rest, rfl, opens, tail⟩ := List.map_eq_cons_iff.1 h
    obtain ⟨closing, rfl, ends⟩ := List.map_eq_singleton_iff.1 tail
    cases opening with
    | conditional own predicate =>
      obtain ⟨alike, rfl⟩ := Mark.conditional.inj opens
      obtain rfl := eq_closing ends
      exact ⟨.conditional own [], rfl, congrArg (Node.conditional · []) alike⟩
    | _ => cases opens
  | .conditional head (⟨number, predicate, body⟩ :: branches) =>
    rw [Node.marks, List.map_cons, List.map_append, List.map_append] at h
    obtain ⟨opening, rest, rfl, opens, tail⟩ := List.map_eq_cons_iff.1 h
    obtain ⟨within, later, rfl, here, after⟩ := List.map_eq_append_iff.1 tail
    obtain ⟨more, last, rfl, further, closes⟩ := List.map_eq_append_iff.1 after
    obtain ⟨closing, rfl, ends⟩ := List.map_eq_singleton_iff.1 closes
    obtain ⟨inner, rfl, same⟩ := exists_nodes body here
    obtain ⟨others, rfl, rest⟩ := exists_branches branches further
    cases opening with
    | conditional own first =>
      obtain ⟨alike, rfl⟩ := Mark.conditional.inj opens
      obtain rfl := eq_closing ends
      refine ⟨.conditional own (⟨0, first, inner⟩ :: others), by rw [Node.marks], ?_⟩
      rw [Node.bare, Node.bare, bareBranches, bareBranches, alike, same, rest]
    | _ => cases opens
termination_by structural node

/-- **Marks that differ in numbers and places** from those of a tree are those of such a tree. -/
theorem exists_nodes (nodes : List Node) {marks : List Mark}
    (h : marks.map Mark.bare = (marksOf nodes).map Mark.bare) :
    ∃ others, marksOf others = marks ∧ bareAll others = bareAll nodes := by
  match nodes with
  | [] =>
    obtain rfl := List.map_eq_nil_iff.1 h
    exact ⟨[], rfl, rfl⟩
  | node :: nodes =>
    rw [marksOf, List.map_append] at h
    obtain ⟨front, back, rfl, here, later⟩ := List.map_eq_append_iff.1 h
    obtain ⟨other, rfl, same⟩ := exists_node node here
    obtain ⟨others, rfl, rest⟩ := exists_nodes nodes later
    exact ⟨other :: others, rfl, by rw [bareAll, bareAll, same, rest]⟩
termination_by structural nodes

/-- Marks that differ in numbers and places from those of branches are those of such branches. -/
theorem exists_branches (branches : List (Branch Node)) {marks : List Mark}
    (h : marks.map Mark.bare = (marksOfBranches branches).map Mark.bare) :
    ∃ others, marksOfBranches others = marks ∧ bareBranches others = bareBranches branches := by
  match branches with
  | [] =>
    obtain rfl := List.map_eq_nil_iff.1 h
    exact ⟨[], rfl, rfl⟩
  | ⟨number, predicate, body⟩ :: branches =>
    rw [marksOfBranches, List.map_cons, List.map_append] at h
    obtain ⟨start, rest, rfl, starts, tail⟩ := List.map_eq_cons_iff.1 h
    obtain ⟨front, back, rfl, here, later⟩ := List.map_eq_append_iff.1 tail
    obtain ⟨inner, rfl, same⟩ := exists_nodes body here
    obtain ⟨others, rfl, rest⟩ := exists_branches branches later
    cases start with
    | next own =>
      obtain rfl : own = predicate := Mark.next.inj starts
      exact ⟨⟨0, own, inner⟩ :: others, rfl, by rw [bareBranches, bareBranches, same, rest]⟩
    | _ => cases starts
termination_by structural branches

end

/-- **Segments that show what a tree says:** marks that are the tree's but for numbers and places. -/
def ShowTree (vocabulary : Vocabulary) (segments : List Segment) (nodes : List Node) : Prop :=
  ∃ marks, List.Forall₂ (Shows vocabulary) segments marks ∧
    marks.map Mark.bare = (marksOf nodes).map Mark.bare

/-- **Parsing and writing out are inverse to each other.** With `if`, `break`, `continue` and
plain blocks, the segments of an accepted template show its tree, written out, one by one; and
where no tag can be taken for another, a template whose segments show what some tree says is
accepted and has a tree that says the same. -/
theorem Document.ofSource_inverse {vocabulary : Vocabulary} (usual : vocabulary.Usual) (source : String) :
    (∀ document, Document.ofSource vocabulary source = .ok document →
      List.Forall₂ (Shows vocabulary) (Source.segments source) (marksOf document.nodes)) ∧
    (vocabulary.Unambiguous → ∀ nodes, ShowTree vocabulary (Source.segments source) nodes →
      ∃ document, Document.ofSource vocabulary source = .ok document ∧
        bareAll document.nodes = bareAll nodes) := by
  refine ⟨fun _ accepted => shows_ofSource usual.plain accepted,
    fun unambiguous nodes ⟨marks, shown, alike⟩ => ?_⟩
  obtain ⟨placed, rfl, same⟩ := exists_nodes nodes alike
  obtain ⟨document, accepted, own⟩ := ofSource_of_shows (unambiguous.leaves usual) shown
  exact ⟨document, accepted, own.trans same⟩

/-- A conditional with three branches inside a block, and a closing tag with markup of its own. -/
theorem Document.ofSource_inverse_nested :
    let vocabulary := Vocabulary.withBlocks ["raw"]
    let source := "{% raw %}a{% if b > 1 %}{{ c | upcase }}{% elsif d %}{% break %}{% else %}{% endif b %}{% endraw %}"
    vocabulary.Usual ∧ vocabulary.Unambiguous ∧
      ∃ document, Document.ofSource vocabulary source = .ok document ∧
        List.Forall₂ (Shows vocabulary) (Source.segments source) (marksOf document.nodes) ∧
          ShowTree vocabulary (Source.segments source) document.nodes ∧
            ∃ again, Document.ofSource vocabulary source = .ok again ∧
              bareAll again.nodes = bareAll document.nodes := by
  intro vocabulary source
  have usual : vocabulary.Usual := Vocabulary.usual_withBlocks ["raw"]
  have unambiguous : vocabulary.Unambiguous := by decide +kernel
  have accepted : (Document.ofSource vocabulary source).toOption.isSome = true := by decide +kernel
  match parsed : Document.ofSource vocabulary source with
  | .error fault =>
    rw [parsed] at accepted
    cases accepted
  | .ok document =>
    obtain ⟨written, read⟩ := Document.ofSource_inverse usual source
    have shown := written document parsed
    obtain ⟨again, same, alike⟩ := read unambiguous document.nodes ⟨_, shown, rfl⟩
    exact ⟨usual, unambiguous, document, rfl, shown, ⟨_, shown, rfl⟩, again, parsed ▸ same, alike⟩

end Tree
end MailMerge
