/-
# Texts that have settled

Passes are made over a text and the sections until one of them replaces nothing. Nothing at
all is assumed of keys here: they may overlap, stand in each other, in entries and in
sections, or lead in circles.

A pass that replaces nothing has met no key in the text, so a text that has settled holds no
key, and it ends before the mark at which all output stops. The sections change in the same
way whatever the text is: filling in a text that has settled once more makes no more passes
than were made, and leaves it as it is.
-/

import MailMerge.Proofs.Outline.Independence
import MailMerge.Proofs.Source.Canonical

namespace MailMerge
namespace Outline

/-! ### Replacing nothing -/

/-- Replacing reports exactly whether the key was there. -/
theorem replaceKey_snd (key value text : String) :
    (replaceKey key value text).2 = Text.contains text key := by
  unfold replaceKey
  split
  · rename_i found
    exact found.symm
  · rename_i absent
    exact (Bool.eq_false_iff.2 absent).symm

theorem replaceKey_of_not_contains {key value text : String} (absent : Text.contains text key = false) :
    replaceKey key value text = (text, false) := by
  rw [replaceKey, absent, if_neg Bool.false_ne_true]

/-- Sections in which nothing is replaced are left as they are. -/
theorem replaceInBodies_quiet {key value : String} {exempt : Option String}
    {pairs : List (String × String)} (quiet : (replaceInBodies key value exempt pairs).2 = false) :
    (replaceInBodies key value exempt pairs).1 = pairs := by
  induction pairs with
  | nil => rfl
  | cons body rest ih =>
    simp only [replaceInBodies] at quiet ⊢
    split
    · rename_i own
      rw [if_pos own] at quiet
      rw [ih quiet]
    · rename_i other
      rw [if_neg other, Bool.or_eq_false_iff, replaceKey_snd] at quiet
      rw [replaceKey_of_not_contains quiet.1, ih quiet.2]

namespace Work

variable {work : Work} {key value : String} {exempt : Option String}

theorem changed_replace (work : Work) (key value : String) (exempt : Option String) :
    (work.replace key value exempt).changed =
      (work.changed || Text.contains work.output key ||
        (replaceInBodies key value exempt work.bodies.pairs).2) := by
  rw [← replaceKey_snd key value work.output]
  rfl

/-- **Replacing without a change** has met the key neither in the text nor in the sections. -/
theorem replace_quiet (quiet : (work.replace key value exempt).changed = false) :
    work.replace key value exempt = work ∧ Text.contains work.output key = false := by
  rw [changed_replace, Bool.or_eq_false_iff, Bool.or_eq_false_iff] at quiet
  obtain ⟨⟨before, absent⟩, bodies⟩ := quiet
  have kept := replaceInBodies_quiet bodies
  refine ⟨?_, absent⟩
  obtain ⟨output, ⟨pairs⟩, changed⟩ := work
  simp only [replace] at before absent bodies kept ⊢
  rw [replaceKey_of_not_contains absent, kept, bodies, before]
  rfl

end Work

/-- Replacing in the sections does not look at the text. -/
theorem Work.bodies_replace (work : Work) (key value : String) (exempt : Option String) :
    (work.replace key value exempt).bodies = ⟨(replaceInBodies key value exempt work.bodies.pairs).1⟩ := rfl

/-- Replacing a key that is not there leaves the text. -/
theorem Work.output_replace {work : Work} {key : String} (absent : Text.contains work.output key = false)
    (value : String) (exempt : Option String) : (work.replace key value exempt).output = work.output :=
  congrArg Prod.fst (replaceKey_of_not_contains absent)

/-! ### Rounds -/

/-- **Work on a text that keeps pace** with other work: the text stays, the sections beside it
are the same, and a change is reported only where one is of the other work too. -/
structure KeepsPace (text : String) (clean work : Work) : Prop where
  output : clean.output = text
  bodies : clean.bodies = work.bodies
  changed : clean.changed = true → work.changed = true

section Rounds

variable {α : Type} (key : α → String) (value : Work → α → String) (exempt : α → Option String)

/-- **Replacing keys one after the other.** -/
def Work.round (work : Work) (items : List α) : Work :=
  items.foldl (fun work item => work.replace (key item) (value work item) (exempt item)) work

theorem Work.round_cons (work : Work) (item : α) (rest : List α) :
    work.round key value exempt (item :: rest) =
      (work.replace (key item) (value work item) (exempt item)).round key value exempt rest := rfl

/-- **A round without a change** has left everything as it was, and has met none of its keys. -/
theorem Work.round_quiet {items : List α} {work : Work}
    (quiet : (work.round key value exempt items).changed = false) :
    work.round key value exempt items = work ∧
      ∀ item ∈ items, Text.contains work.output (key item) = false := by
  induction items generalizing work with
  | nil => exact ⟨rfl, fun _ mem => (List.not_mem_nil mem).elim⟩
  | cons item rest ih =>
    rw [round_cons] at quiet ⊢
    obtain ⟨later, others⟩ := ih quiet
    rw [later] at quiet ⊢
    obtain ⟨same, own⟩ := replace_quiet quiet
    rw [same] at others
    exact ⟨same, List.forall_mem_cons.2 ⟨own, others⟩⟩

/-- **Without a key of the round** a text keeps pace, if what is put in the place of keys
comes from the sections. -/
theorem KeepsPace.round {text : String} {clean work : Work} (h : KeepsPace text clean work)
    (sections : ∀ first second : Work, first.bodies = second.bodies →
      ∀ item, value first item = value second item)
    {items : List α} (absent : ∀ item ∈ items, Text.contains text (key item) = false) :
    KeepsPace text (clean.round key value exempt items) (work.round key value exempt items) := by
  induction items generalizing clean work with
  | nil => exact h
  | cons item rest ih =>
    obtain ⟨own, others⟩ := List.forall_mem_cons.1 absent
    rw [← h.output] at own
    rw [Work.round_cons, Work.round_cons, sections clean work h.bodies item]
    refine ih ⟨(Work.output_replace own ..).trans h.output, ?_, ?_⟩ others
    · rw [Work.bodies_replace, Work.bodies_replace, h.bodies]
    · rw [Work.changed_replace, Work.changed_replace, own, h.bodies, Bool.or_false]
      intro changed
      rcases Bool.or_eq_true _ _ ▸ changed with before | bodies
      · rw [h.changed before, Bool.true_or, Bool.true_or]
      · rw [bodies, Bool.or_true]

end Rounds

/-! ### Passes -/

section Passes

variable {cells : List (String × String)} {keys : List String} {halt : Option String}

/-- The keys of the table are replaced in one round. -/
theorem Work.replaceCells_eq_round (work : Work) (cells : List (String × String)) :
    work.replaceCells cells = work.round Prod.fst (fun _ cell => cell.2) (fun _ => none) cells := rfl

/-- The keys of the sections are replaced in one round. -/
theorem Work.replaceSections_eq_round (work : Work) (keys : List String) :
    work.replaceSections keys =
      work.round id (fun work key => (work.bodies.find? key).getD "") (fun key => some key) keys := rfl

theorem Work.changed_cutAt (work : Work) (halt : Option String) :
    (work.cutAt halt).changed = work.changed := by
  unfold cutAt
  split
  · rfl
  · split <;> rfl

theorem Work.bodies_cutAt (work : Work) (halt : Option String) :
    (work.cutAt halt).bodies = work.bodies := by
  unfold cutAt
  split
  · rfl
  · split <;> rfl

/-- **A pass that replaces nothing** has met no key in the text, and only cuts it off. -/
theorem pass_quiet {output : String} {bodies : Dict String}
    (quiet : (pass cells keys halt output bodies).changed = false) :
    pass cells keys halt output bodies = (⟨output, bodies, false⟩ : Work).cutAt halt ∧
      (∀ cell ∈ cells, Text.contains output cell.1 = false) ∧
      ∀ key ∈ keys, Text.contains output key = false := by
  rw [pass, Work.changed_cutAt, Work.replaceSections_eq_round] at quiet
  obtain ⟨sections, no_section⟩ := Work.round_quiet _ _ _ quiet
  rw [sections, Work.replaceCells_eq_round] at quiet
  obtain ⟨entries, no_entry⟩ := Work.round_quiet _ _ _ quiet
  rw [Work.replaceCells_eq_round, entries] at no_section
  rw [pass, Work.replaceSections_eq_round, sections, Work.replaceCells_eq_round, entries]
  exact ⟨rfl, no_entry, no_section⟩

/-! ### Where output stops -/

/-- What holds a key still does with more text around it. -/
theorem not_contains_of_append {text front back key : String} (same : text.toList = front.toList ++ back.toList)
    (absent : Text.contains text key = false) : Text.contains front key = false := by
  have whole : text = front ++ back := String.toList_inj.1 (same.trans String.toList_append.symm)
  refine Bool.eq_false_iff.2 fun found => Bool.false_ne_true (absent.symm.trans ?_)
  rw [whole]
  exact Text.contains_append_left found back

/-- **Cutting off** leaves the text in front of the mark, in which the mark does not stand. -/
theorem Work.output_cutAt (work : Work) (given : halt ≠ some "") :
    (∃ back : String, work.output.toList = (work.cutAt halt).output.toList ++ back.toList) ∧
      ∀ key ∈ halt, Text.contains (work.cutAt halt).output key = false := by
  cases halt with
  | none => exact ⟨⟨"", by simp [cutAt]⟩, fun _ mem => by cases mem⟩
  | some mark =>
    suffices one : (∃ back : String, work.output.toList =
        (work.cutAt (some mark)).output.toList ++ back.toList) ∧
        Text.contains (work.cutAt (some mark)).output mark = false by
      exact ⟨one.1, fun key mem => Option.some.inj mem ▸ one.2⟩
    cases found : Text.before? mark.toList work.output.toList with
    | none =>
      have cut : work.cutAt (some mark) = work := by simp [cutAt, Text.beforeFirst?, found]
      rw [cut, Text.contains, ← Text.before?_isSome, found]
      exact ⟨⟨"", by simp⟩, rfl⟩
    | some inner =>
      have cut : (work.cutAt (some mark)).output = String.ofList inner := by
        simp [cutAt, Text.beforeFirst?, found]
      obtain ⟨rest, whole⟩ := Text.eq_append_of_before? found
      rw [cut, String.toList_ofList]
      refine ⟨⟨String.ofList (mark.toList ++ rest), by rw [whole, String.toList_ofList]⟩, ?_⟩
      refine Bool.eq_false_iff.2 fun inside => given ?_
      rw [Text.contains_iff, String.toList_ofList] at inside
      obtain ⟨before, after, rfl⟩ := inside
      have last := Text.only_last_of_before? found before (after ++ mark.toList) (by simp)
      rw [String.toList_eq_nil_iff.1 (List.append_eq_nil_iff.1 last).2]

/-- Without the mark nothing is cut off. -/
theorem Work.cutAt_of_absent {work : Work} (absent : ∀ key ∈ halt, Text.contains work.output key = false) :
    work.cutAt halt = work := by
  cases halt with
  | none => rfl
  | some mark =>
    have none : Text.before? mark.toList work.output.toList = none := by
      have absent := absent mark rfl
      rwa [Text.contains, ← Text.before?_isSome, Option.isSome_eq_false_iff, Option.isNone_iff_eq_none] at absent
    simp [cutAt, Text.beforeFirst?, none]

/-! ### Settling -/

/-- **A settled text** holds none of the keys, nor the mark at which all output stops. -/
structure Settled (keys : List String) (halt : Option String) (text : String) : Prop where
  keys : ∀ key ∈ keys, Text.contains text key = false
  halt : ∀ key ∈ halt, Text.contains text key = false

/-- **A settled text keeps pace** with any other over a pass. -/
theorem Settled.pass {text : String} (settled : Settled (cells.map (·.1) ++ keys) halt text)
    (output : String) (bodies : Dict String) :
    KeepsPace text (Outline.pass cells keys halt text bodies)
      (Outline.pass cells keys halt output bodies) := by
  have start : KeepsPace text ⟨text, bodies, false⟩ ⟨output, bodies, false⟩ := ⟨rfl, rfl, fun h => h⟩
  have entries := start.round Prod.fst (fun _ cell => cell.2) (fun _ => none)
    (fun _ _ _ _ => rfl) fun cell (mem : cell ∈ cells) =>
      settled.keys _ (List.mem_append_left _ (List.mem_map.2 ⟨cell, mem, rfl⟩))
  have both := entries.round id (fun work key => (work.bodies.find? key).getD "")
    (fun key => some key) (fun _ _ bodies _ => by rw [bodies])
    fun key (mem : key ∈ keys) => settled.keys _ (List.mem_append_right _ mem)
  have uncut := Work.cutAt_of_absent fun key mem => both.output.symm ▸ settled.halt key mem
  rw [Outline.pass, Outline.pass, Work.replaceCells_eq_round, Work.replaceCells_eq_round,
    Work.replaceSections_eq_round, Work.replaceSections_eq_round, uncut]
  exact ⟨both.output, both.bodies.trans (Work.bodies_cutAt ..).symm, fun changed =>
    (Work.changed_cutAt ..).trans (both.changed changed)⟩

/-- **What is settled on** has settled. -/
theorem settle_settled (given : halt ≠ some "") {passes : Nat} {text final : String}
    {bodies : Dict String} (found : settle cells keys halt passes text bodies = some final) :
    Settled (cells.map (·.1) ++ keys) halt final := by
  induction passes generalizing text bodies with
  | zero => cases found
  | succ passes ih =>
    rw [settle] at found
    split at found
    · exact ih found
    · rename_i quiet
      obtain rfl := Option.some.inj found
      obtain ⟨last, no_entry, no_section⟩ := pass_quiet (Bool.eq_false_iff.2 quiet)
      rw [last]
      obtain ⟨⟨back, whole⟩, stopped⟩ := Work.output_cutAt (⟨text, bodies, false⟩ : Work) given
      refine ⟨fun key mem => not_contains_of_append whole ?_, stopped⟩
      rcases List.mem_append.1 mem with entry | own
      · obtain ⟨cell, inside, rfl⟩ := List.mem_map.1 entry
        exact no_entry cell inside
      · exact no_section key own

/-- **A settled text settles at once:** in the passes that any other text settles in, it is
left as it is. -/
theorem settle_again {text : String} (settled : Settled (cells.map (·.1) ++ keys) halt text)
    {passes : Nat} {other final : String} {bodies : Dict String}
    (found : settle cells keys halt passes other bodies = some final) :
    settle cells keys halt passes text bodies = some text := by
  induction passes generalizing other bodies with
  | zero => cases found
  | succ passes ih =>
    have pace := settled.pass other bodies
    rw [settle] at found ⊢
    rw [pace.output, pace.bodies]
    split
    · rename_i changed
      rw [if_pos (pace.changed changed)] at found
      exact ih found
    · rfl

/-- **The pass after so many others,** with what it leaves and whether it replaces anything. -/
def passAfter (cells : List (String × String)) (keys : List String) (halt : Option String) :
    Nat → String → Dict String → Work
  | 0, text, bodies => pass cells keys halt text bodies
  | number + 1, text, bodies =>
    let work := pass cells keys halt text bodies
    passAfter cells keys halt number work.output work.bodies

/-- **A text does not settle** if every pass replaces something. -/
theorem settle_eq_none_iff {passes : Nat} {text : String} {bodies : Dict String} :
    settle cells keys halt passes text bodies = none ↔
      ∀ number < passes, (passAfter cells keys halt number text bodies).changed = true := by
  induction passes generalizing text bodies with
  | zero => exact ⟨fun _ _ less => absurd less (Nat.not_lt_zero _), fun _ => rfl⟩
  | succ passes ih =>
    rw [Nat.forall_lt_succ_left, settle]
    split
    · rename_i changed
      exact ih.trans ⟨fun rest => ⟨changed, rest⟩, fun both => both.2⟩
    · rename_i quiet
      exact ⟨fun none => (by cases none), fun both => absurd both.1 quiet⟩

end Passes

/-! ### The texts of the recipients -/

/-- **The table of one recipient.** -/
def Table.row (table : Table) (index : Nat) : Table :=
  table.mapEntries fun column => [column[index]?.getD ""]

section Fill

variable {text : String} {table : Table} {sections : Dict String} {halt : Option String}

/-- **A recipient whose text does not settle:** each of the passes that are made replaces something
in the text or in the sections. -/
def Unsettled (text : String) (table : Table) (sections : Dict String) (halt : Option String)
    (index : Nat) : Prop :=
  ∀ number < sections.size + 2,
    (passAfter (entriesOf (longestFirst table.pairs) index) ((longestFirst sections.pairs).map (·.1)) halt
      number text ⟨sections.pairs.filter fun body => !body.1.isEmpty⟩).changed = true

theorem settledText_eq_none_iff {index : Nat} :
    settledText text (longestFirst table.pairs) sections halt index = none ↔
      Unsettled text table sections halt index :=
  settle_eq_none_iff

/-- A recipient on their own has the same entries. -/
theorem settledText_row (index : Nat) :
    settledText text (longestFirst (table.row index).pairs) sections halt 0 =
      settledText text (longestFirst table.pairs) sections halt index := by
  have order : longestFirst (table.row index).pairs =
      (longestFirst table.pairs).map fun column => (column.1, [column.2[index]?.getD ""]) :=
    longestFirst_map (fun column : List String => [column[index]?.getD ""]) _
  rw [settledText, order, entriesOf, List.map_map]
  rfl

/-- **A recipient on their own** has the text that they have among others. -/
theorem fill_row (index : Nat) :
    fill text (table.row index) sections 1 halt =
      (settledText text (longestFirst table.pairs) sections halt index).elim (.error (.unresolved 0))
        fun own => .ok [own] := by
  have lengths : ∀ column ∈ (table.row index).pairs, column.2.length = 1 := by
    intro column mem
    obtain ⟨own, -, rfl⟩ := List.mem_map.1 mem
    rfl
  rw [fill, checkColumns_ok lengths]
  change fillEach text _ sections halt [0] = _
  rw [fillEach_eq_mapM, List.mapM_cons, List.mapM_nil, settledText_row]
  cases settledText text (longestFirst table.pairs) sections halt index <;> rfl

/-- What a text settles on holds no key, whether of the table or of a section. -/
theorem settledText_settled (given : halt ≠ some "") {index : Nat} {own : String}
    (found : settledText text (longestFirst table.pairs) sections halt index = some own) :
    (∀ key ∈ table.keys, key ≠ "" → Text.contains own key = false) ∧
      (∀ key ∈ sections.keys, key ≠ "" → Text.contains own key = false) ∧
      (∀ key ∈ halt, Text.contains own key = false) ∧
      settledText own (longestFirst table.pairs) sections halt index = some own := by
  have settled := settle_settled given found
  refine ⟨?_, ?_, settled.halt, settle_again settled found⟩
  · intro key mem nonempty
    obtain ⟨column, listed, rfl⟩ := List.mem_map.1 mem
    refine settled.keys _ (List.mem_append_left _ ?_)
    rw [entriesOf, List.map_map]
    exact List.mem_map.2 ⟨column, mem_longestFirst.2 ⟨listed, nonempty⟩, rfl⟩
  · intro key mem nonempty
    obtain ⟨body, listed, rfl⟩ := List.mem_map.1 mem
    refine settled.keys _ (List.mem_append_right _ ?_)
    exact List.mem_map.2 ⟨body, mem_longestFirst.2 ⟨listed, nonempty⟩, rfl⟩

/-- **Texts that are filled in are settled,** and stopping short means that one does not settle.
For any text, any table and sections whose keys may overlap, stand in each other or lead in
circles, and any mark at which output stops that is not empty: a text that is found holds no
key and not the mark, and filling it in once more with the row of its recipient leaves it as it
is. If nothing is found for a table whose columns all have as many entries as there are
recipients, the first recipient whose text does not settle is reported. -/
theorem fill_fixpoint (given : halt ≠ some "") (text : String) (table : Table)
    (sections : Dict String) (count : Nat) :
    (∀ texts, fill text table sections count halt = .ok texts → texts.length = count ∧
      ∀ index (less : index < texts.length),
        (∀ key ∈ table.keys, key ≠ "" → Text.contains texts[index] key = false) ∧
        (∀ key ∈ sections.keys, key ≠ "" → Text.contains texts[index] key = false) ∧
        (∀ key ∈ halt, Text.contains texts[index] key = false) ∧
        fill texts[index] (table.row index) sections 1 halt = .ok [texts[index]]) ∧
    ((∀ column ∈ table.pairs, column.2.length = count) →
      (∀ texts, fill text table sections count halt ≠ .ok texts) →
      ∃ index < count, fill text table sections count halt = .error (.unresolved index) ∧
        Unsettled text table sections halt index ∧
        ∀ earlier < index, ¬ Unsettled text table sections halt earlier) := by
  constructor
  · intro texts filled
    rw [fill] at filled
    split at filled
    · cases filled
    · have each := List.forall₂_iff_get.1 (fillEach_eq_ok_iff.1 filled)
      refine ⟨each.1.symm.trans List.length_range, fun index less => ?_⟩
      have own := each.2 index (each.1.symm ▸ less) less
      rw [List.get_eq_getElem, List.get_eq_getElem, List.getElem_range] at own
      obtain ⟨no_entry, no_section, stopped, again⟩ := settledText_settled given own
      exact ⟨no_entry, no_section, stopped, by rw [fill_row, again, Option.elim_some]⟩
  · intro lengths unfilled
    rw [fill, checkColumns_ok lengths] at unfilled ⊢
    dsimp only at unfilled ⊢
    rw [fillEach_eq_mapM] at unfilled ⊢
    generalize made : List.mapM (m := Except Fault) _ _ = outcome at unfilled ⊢
    cases outcome with
    | ok texts => exact absurd rfl (unfilled texts)
    | error fault =>
      obtain ⟨index, less, failed, others⟩ := mapM_range_eq_error made
      have unsettled : settledText text (longestFirst table.pairs) sections halt index = none := by
        cases found : settledText text (longestFirst table.pairs) sections halt index with
        | none => rfl
        | some own =>
          rw [found] at failed
          cases failed
      rw [unsettled] at failed
      obtain rfl := Except.error.inj failed
      refine ⟨index, less, rfl, settledText_eq_none_iff.1 unsettled, fun earlier smaller none => ?_⟩
      obtain ⟨own, found⟩ := others earlier smaller
      rw [settledText_eq_none_iff.2 none] at found
      cases found

/-- A key that stands in another, and comes about again once it has been replaced. For the second
recipient it stands for itself, so the section never settles, though the text would. -/
theorem fill_fixpoint_overlap :
    let table : Table := ⟨[("ab", ["b", "ab"]), ("abc", ["<#>", "x"])]⟩
    let sections : Dict String := ⟨[("<", "aab")]⟩
    some "#" ≠ some "" ∧
      fill "abc" (table.row 0) sections 1 (some "#") = .ok ["b"] ∧
      Text.contains "b" "<" = false ∧
      fill "b" ((table.row 0).row 0) sections 1 (some "#") = .ok ["b"] ∧
      fill "abc" table sections 2 (some "#") = .error (.unresolved 1) ∧
      Unsettled "abc" table sections (some "#") 1 ∧
      ¬ Unsettled "abc" table sections (some "#") 0 := by
  intro table sections
  have given : some "#" ≠ some "" := by decide
  have alone : fill "abc" (table.row 0) sections 1 (some "#") = .ok ["b"] := by decide +kernel
  have both : fill "abc" table sections 2 (some "#") = .error (.unresolved 1) := by decide +kernel
  obtain ⟨-, no_section, -, again⟩ :=
    ((fill_fixpoint given "abc" (table.row 0) sections 1).1 _ alone).2 0 (by decide)
  obtain ⟨index, -, failed, unsettled, others⟩ :=
    (fill_fixpoint given "abc" table sections 2).2 (by decide) fun texts found => by
      cases both.symm.trans found
  obtain ⟨⟩ := Except.error.inj (both.symm.trans failed)
  exact ⟨given, alone, no_section "<" (by decide) (by decide), again, both, unsettled,
    others 0 (by decide)⟩

end Fill

end Outline
end MailMerge
