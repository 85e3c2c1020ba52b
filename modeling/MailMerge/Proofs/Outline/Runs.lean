/-
# The runs of a body

The body of a branch becomes sections. A body without choices becomes one. In a
body with choices every run of fragments between them becomes one, and every choice
is put under the branch's guard. On the side of sketches this makes passages of a
body's pieces, and each step keeps the draft the one that represents the sketch.
-/

import MailMerge.Proofs.Outline.Registering

namespace MailMerge
namespace Outline

/-- **No slot of a branch is in use** for a run from `runs` on. -/
def Unused (branch runs : Nat) (slots : List Slot) : Prop :=
  ∀ run, runs ≤ run → Slot.choice branch run ∉ slots ∧ Slot.body branch run ∉ slots

theorem Unused.subset {branch runs : Nat} {slots others : List Slot} (h : Unused branch runs slots)
    (sub : others ⊆ slots) : Unused branch runs others :=
  fun run le => ⟨fun mem => (h run le).1 (sub mem), fun mem => (h run le).2 (sub mem)⟩

/-- After a run has been made a passage, the slots of the next one are unused. -/
theorem Unused.passageOfRun {branch runs : Nat} (guard : Guard) {parts : List Part}
    (h : Unused branch runs (parts.flatMap Part.slots)) :
    Unused branch (if parts.isEmpty then runs else runs + 1)
      (slotsIn ((passageOfRun branch runs guard parts).map .passage)) := by
  intro run le
  unfold Outline.passageOfRun
  split at le
  · rename_i none
    rw [if_pos none]
    exact ⟨List.not_mem_nil, List.not_mem_nil⟩
  · rename_i some
    have := h run (by omega)
    rw [if_neg some]
    simp only [List.map_singleton, slotsIn_cons, slotsIn_nil, List.append_nil, Piece.slots,
      Passage.choiceSlot, Passage.bodySlot, List.mem_cons, Slot.choice.injEq, Slot.body.injEq,
      reduceCtorEq, false_or, not_or]
    exact ⟨⟨by omega, this.1⟩, by omega, this.2⟩

/-- The slots of pieces that belong to other branches leave those of a branch unused. -/
theorem Unused.of_ids {branch : Nat} {slots : List Slot}
    (other : ∀ slot ∈ slots, slot.id? ≠ some branch) : Unused branch 0 slots :=
  fun _ _ => ⟨fun mem => other _ mem rfl, fun mem => other _ mem rfl⟩

/-! ### Drawing up runs -/

section Runs

variable (draft : Draft) (ring : Keyring) (branch runs : Nat) (run : List Fragment) (guard : Guard)

/-- A body without choices is one run. -/
theorem addRuns_of_no_choice {fragments : List Fragment}
    (h : ∀ fragment ∈ fragments, fragment.isChoice = false) :
    Draft.addRuns branch guard draft ring runs run fragments =
      ((draft.addRun ring branch runs (run ++ fragments) guard).1,
        (draft.addRun ring branch runs (run ++ fragments) guard).2.1) := by
  induction fragments generalizing run with
  | nil => rw [Draft.addRuns, List.append_nil]
  | cons fragment rest ih =>
    have later := ih (run ++ [fragment]) fun other mem => h other (List.mem_cons_of_mem _ mem)
    rw [List.append_assoc, List.singleton_append] at later
    cases fragment with
    | choice key => simp [Fragment.isChoice] at h
    | _ => rw [Draft.addRuns]; exact later; simp

/-- **A choice ends a run.** -/
theorem addRuns_choice {fragments rest : List Fragment} {key : String}
    (h : ∀ fragment ∈ fragments, fragment.isChoice = false) :
    Draft.addRuns branch guard draft ring runs run (fragments ++ .choice key :: rest) =
      let added := draft.addRun ring branch runs (run ++ fragments) guard
      Draft.addRuns branch guard ((added.1.guardChoice key guard).push (.choice key)) added.2.1
        added.2.2 [] rest := by
  induction fragments generalizing run with
  | nil => rw [List.nil_append, Draft.addRuns, List.append_nil]
  | cons fragment more ih =>
    have later := ih (run ++ [fragment]) fun other mem => h other (List.mem_cons_of_mem _ mem)
    rw [List.append_assoc, List.singleton_append] at later
    cases fragment with
    | choice key => simp [Fragment.isChoice] at h
    | _ => rw [List.cons_append, Draft.addRuns]; exact later; simp

end Runs

/-- Parts are no choices, also after text has been joined. -/
theorem isChoice_of_parts {ring : Keyring} {parts : List Part} {fragment : Fragment}
    (h : fragment ∈ joinLiterals (parts.map (Part.fragment ring))) : fragment.isChoice = false := by
  cases fragment with
  | choice key =>
    obtain ⟨part, -, hpart⟩ := List.mem_map.1 ((mem_joinLiterals_iff rfl).1 h)
    cases part <;> simp [Part.fragment] at hpart
  | _ => rfl

/-! ### The slots of passages -/

theorem slotsIn_passageOfRun {branch run : Nat} {guard : Guard} {parts : List Part} {slot : Slot}
    (h : slot ∈ slotsIn ((passageOfRun branch run guard parts).map .passage)) :
    slot = .choice branch run ∨ slot = .body branch run ∨ slot ∈ parts.flatMap Part.slots := by
  unfold passageOfRun at h
  split at h
  · simp at h
  · simpa [Piece.slots, Passage.choiceSlot, Passage.bodySlot] using h

theorem haltsIn_passageOfRun (branch run : Nat) (guard : Guard) (parts : List Part) :
    haltsIn ((passageOfRun branch run guard parts).map .passage) = parts.any Part.isHalt := by
  unfold passageOfRun
  split
  · rename_i none
    rw [List.isEmpty_iff.1 none]
    rfl
  · simp [haltsIn, Piece.halts]

@[simp] theorem Piece.slots_under (inner : Passage) (guard : Guard) :
    (Piece.passage (inner.under guard)).slots = (Piece.passage inner).slots := rfl

@[simp] theorem Piece.halts_under (inner : Passage) (guard : Guard) :
    (Piece.passage (inner.under guard)).halts = (Piece.passage inner).halts := rfl

/-- After a run and the choice behind it have been made passages, the slots of the next run are
unused. -/
theorem Unused.behindChoice {branch runs : Nat} (guard : Guard) {parts : List Part} {inner : Passage}
    {rest others : List Piece}
    (h : Unused branch runs (slotsIn (parts.map Piece.part ++ (.passage inner :: rest ++ others)))) :
    Unused branch (if parts.isEmpty then runs else runs + 1)
      (slotsIn (rest ++ ((Outline.passageOfRun branch runs guard parts).map Piece.passage ++
        [.passage (inner.under guard)] ++ others))) := by
  have ofParts : Unused branch runs (parts.flatMap Part.slots) := h.subset fun slot mem => by
    simp [slotsIn_parts, mem]
  intro later le
  have old := h later (by split at le <;> omega)
  have new := ofParts.passageOfRun guard later le
  simp only [slotsIn_append, slotsIn_cons, slotsIn_nil, List.append_nil, Piece.slots_under,
    List.cons_append, List.mem_append, not_or] at old new ⊢
  obtain ⟨⟨-, oldChoice, restChoice, otherChoice⟩, -, oldBody, restBody, otherBody⟩ := old
  exact ⟨⟨restChoice, ⟨new.1, oldChoice⟩, otherChoice⟩, restBody, ⟨new.2, oldBody⟩, otherBody⟩

/-- **The slots of a branch's passages** are its own and those of the body. -/
theorem slotsIn_passagesFrom {branch : Nat} {guard : Guard} (rest : List Piece) (runs : Nat)
    (parts : List Part) {slot : Slot}
    (h : slot ∈ slotsIn ((passagesFrom branch guard runs parts rest).map .passage)) :
    slot.id? = some branch ∨ slot ∈ parts.flatMap Part.slots ++ slotsIn rest := by
  have ofRun : ∀ {run : Nat} {parts : List Part},
      slot ∈ slotsIn ((passageOfRun branch run guard parts).map .passage) →
        slot.id? = some branch ∨ slot ∈ parts.flatMap Part.slots := by
    intro run parts mem
    rcases slotsIn_passageOfRun mem with rfl | rfl | mem
    · exact .inl rfl
    · exact .inl rfl
    · exact .inr mem
  induction rest generalizing runs parts with
  | nil => exact (ofRun h).imp_right fun mem => List.mem_append_left _ mem
  | cons piece rest ih =>
    cases piece with
    | part own =>
      refine (ih runs (parts ++ [own]) h).imp_right fun mem => ?_
      simpa [Piece.slots] using mem
    | passage inner =>
      rw [passagesFrom, List.map_append, List.map_cons, slotsIn_append, slotsIn_cons,
        Piece.slots_under] at h
      rw [slotsIn_cons]
      rcases List.mem_append.1 h with mem | mem
      · exact (ofRun mem).imp_right fun mem => List.mem_append_left _ mem
      · rcases List.mem_append.1 mem with mem | mem
        · exact .inr (List.mem_append_right _ (List.mem_append_left _ mem))
        · refine (ih _ [] mem).imp_right fun mem => ?_
          exact List.mem_append_right _ (List.mem_append_right _ mem)

/-- **A branch's passages end all output where its body does.** -/
theorem haltsIn_passagesFrom (branch : Nat) (guard : Guard) (rest : List Piece) (runs : Nat)
    (parts : List Part) :
    haltsIn ((passagesFrom branch guard runs parts rest).map .passage) =
      (parts.any Part.isHalt || haltsIn rest) := by
  induction rest generalizing runs parts with
  | nil => rw [passagesFrom, haltsIn_passageOfRun]; simp [haltsIn]
  | cons piece rest ih =>
    cases piece with
    | part own => rw [passagesFrom, ih]; simp [Piece.halts, Bool.or_assoc]
    | passage inner =>
      rw [passagesFrom, List.map_append, List.map_cons, haltsIn_append, haltsIn_cons,
        haltsIn_passageOfRun, ih, Piece.halts_under, haltsIn_cons]
      rfl

/-- Pieces of which none is a passage are parts. -/
theorem parts_of_no_passage {pieces : List Piece} (h : ¬ pieces.any Piece.isPassage = true) :
    pieces = (partsOf pieces).map .part := by
  induction pieces with
  | nil => rfl
  | cons piece rest ih =>
    rw [List.any_cons, Bool.or_eq_true, not_or] at h
    cases piece with
    | part own => rw [partsOf, List.map_cons, ← ih h.2]
    | passage inner => simp [Piece.isPassage] at h

theorem slotsIn_passagesOf {branch : Nat} {guard : Guard} {body : List Piece} {slot : Slot}
    (h : slot ∈ slotsIn ((passagesOf branch guard body).map .passage)) :
    slot.id? = some branch ∨ slot ∈ slotsIn body := by
  unfold passagesOf at h
  split at h
  · exact slotsIn_passagesFrom body 0 [] h
  · rename_i none
    rw [parts_of_no_passage none, slotsIn_parts]
    rw [List.map_singleton, slotsIn_cons, Piece.slots, slotsIn_nil, List.append_nil, List.mem_cons,
      List.mem_cons] at h
    rcases h with rfl | rfl | mem
    · exact .inl rfl
    · exact .inl rfl
    · exact .inr mem

theorem haltsIn_passagesOf (branch : Nat) (guard : Guard) (body : List Piece) :
    haltsIn ((passagesOf branch guard body).map .passage) = haltsIn body := by
  unfold passagesOf
  split
  · rw [haltsIn_passagesFrom]
    rfl
  · rename_i none
    conv_rhs => rw [parts_of_no_passage none, haltsIn_parts]
    simp [haltsIn, Piece.halts]

/-! ### Each step represents what it makes of the sketch -/

namespace Represents

variable {ring : Keyring} {draft : Draft} {shown others : List Piece} {branch runs : Nat}
  (guard : Guard) {parts : List Part}

/-- What is shown at the end and stands in front is among all pieces. -/
theorem append_subset_append (sub : shown ⊆ others) {made : List Piece} : shown ++ made ⊆ made ++ others :=
  List.append_subset.2 ⟨List.subset_append_of_subset_right _ sub, List.subset_append_left ..⟩

/-- The fragments of a sketch's pieces are the same with a later keyring. -/
theorem map_fragment_extend {all pieces : List Piece} {later : Keyring}
    (h : Represents ring draft shown all) (ext : ring.Extends later) (sub : pieces ⊆ all) :
    pieces.map (Piece.fragment later) = pieces.map (Piece.fragment ring) :=
  List.map_congr_left fun _ mem => h.keyed.fragment_extend ext (sub mem)

/-- **Adding a section** makes a passage of parts and shows it. -/
theorem addSection (h : Represents ring draft shown (parts.map Piece.part ++ others)) (sub : shown ⊆ others)
    (unused : Unused branch runs (slotsIn (parts.map Piece.part ++ others))) :
    let body := joinLiterals (parts.map (Part.fragment ring))
    let added := draft.addSection ring branch runs body guard
    let passage : Piece := .passage ⟨branch, runs, guard, [], parts⟩
    Represents added.2 added.1 (shown ++ [passage]) (passage :: others) ∧ ring.Extends added.2 := by
  intro body added passage
  let first := (ring.take (.body branch runs)).2
  have ext : ring.Extends added.2 := (ring.extends_take _).trans (first.extends_take _)
  have hasBody : first.Has (.body branch runs) := ring.has_take _
  have bodyKey : added.2.keyOf (.body branch runs) = (ring.take (.body branch runs)).1 :=
    ((first.extends_take _).keyOf hasBody).trans (ring.keyOf_take _)
  have choiceKey : added.2.keyOf (.choice branch runs) = (first.take (.choice branch runs)).1 :=
    first.keyOf_take _
  have same : body = joinLiterals (parts.map (Part.fragment added.2)) := by
    have := h.map_fragment_extend ext (List.subset_append_left (parts.map Piece.part) others)
    rw [List.map_map, List.map_map] at this
    exact congrArg joinLiterals this.symm
  have now := h.extend ext ((h.regular.take _).take _)
  have registered := now.addPassage ⟨branch, runs, guard, [], parts⟩ sub rfl
    (first.has_take _) ((first.extends_take _).has hasBody) (unused runs (Nat.le_refl _)).1
    (unused runs (Nat.le_refl _)).2
  have pushed := registered.push passage List.mem_cons_self
  refine ⟨?_, ext⟩
  simp only [Passage.choiceSlot, Passage.bodySlot, Passage.body, Piece.fragment, bodyKey, choiceKey,
    passage] at pushed
  rw [← same] at pushed
  exact pushed

/-- **Adding a run** makes a passage of it, if it has parts. -/
theorem addRun (h : Represents ring draft shown (parts.map Piece.part ++ others)) (sub : shown ⊆ others)
    (unused : Unused branch runs (slotsIn (parts.map Piece.part ++ others))) :
    let body := joinLiterals (parts.map (Part.fragment ring))
    let added := draft.addRun ring branch runs body guard
    let made := (passageOfRun branch runs guard parts).map Piece.passage
    Represents added.2.1 added.1 (shown ++ made) (made ++ others) ∧ ring.Extends added.2.1 ∧
      added.2.2 = if parts.isEmpty then runs else runs + 1 := by
  intro body added made
  have empty : body.isEmpty = parts.isEmpty := by
    rw [Bool.eq_iff_iff, List.isEmpty_iff, List.isEmpty_iff, joinLiterals_eq_nil_iff,
      List.map_eq_nil_iff]
  simp only [added, made, Draft.addRun, passageOfRun, empty]
  cases none : parts.isEmpty with
  | true =>
    rw [List.isEmpty_iff] at none
    subst none
    simpa using ⟨h, Keyring.Extends.refl ring⟩
  | false =>
    have := h.addSection guard sub unused
    exact ⟨this.1, this.2, rfl⟩

/-- **Putting a choice under a guard** puts the passage under it. -/
theorem guardChoice {inner : Passage} (h : Represents ring draft shown (.passage inner :: others))
    (sub : shown ⊆ others) :
    Represents ring (draft.guardChoice (ring.keyOf inner.choiceSlot) guard) shown
      (.passage (inner.under guard) :: others) :=
  h.modify (inner.under guard) shown _ rfl rfl rfl rfl (List.Subset.trans sub (List.subset_cons_self ..)) rfl

/-- **Adding a run and the choice after it** makes a passage of the run and puts that
of the choice under the guard. -/
theorem addChoice {inner : Passage}
    (h : Represents ring draft shown (parts.map Piece.part ++ .passage inner :: others))
    (sub : shown ⊆ others)
    (unused : Unused branch runs (slotsIn (parts.map Piece.part ++ .passage inner :: others))) :
    let added := draft.addRun ring branch runs (joinLiterals (parts.map (Part.fragment ring))) guard
    let key := ring.keyOf inner.choiceSlot
    let made := (passageOfRun branch runs guard parts).map Piece.passage ++
      [.passage (inner.under guard)]
    Represents added.2.1 ((added.1.guardChoice key guard).push (.choice key)) (shown ++ made)
        (made ++ others) ∧
      ring.Extends added.2.1 ∧ added.2.2 = if parts.isEmpty then runs else runs + 1 := by
  intro added key made
  let first := (passageOfRun branch runs guard parts).map Piece.passage
  obtain ⟨hrun, ext, next⟩ := h.addRun guard
    (List.Subset.trans sub (List.subset_cons_self ..)) unused
  have hkey : added.2.1.keyOf inner.choiceSlot = key :=
    ext.keyOf (h.keyed.piece_slots (List.mem_append_right _ List.mem_cons_self) _ List.mem_cons_self)
  have guarded := (hrun.perm List.perm_middle).guardChoice guard (append_subset_append sub)
  have pushed := guarded.push (.passage (inner.under guard)) List.mem_cons_self
  refine ⟨?_, ext, next⟩
  have order : (Piece.passage (inner.under guard) :: (first ++ others)).Perm (made ++ others) := by
    rw [List.append_assoc]
    exact List.perm_middle.symm
  have result := pushed.perm order
  rw [List.append_assoc] at result
  have key_eq : Piece.fragment added.2.1 (.passage (inner.under guard)) = .choice key :=
    congrArg Fragment.choice hkey
  exact key_eq ▸ hkey ▸ result

/-- **Adding the runs of a body** makes passages of it. -/
theorem addRuns (parts : List Part) (rest : List Piece)
    (h : Represents ring draft shown (parts.map Piece.part ++ (rest ++ others))) (sub : shown ⊆ others)
    (unused : Unused branch runs (slotsIn (parts.map Piece.part ++ (rest ++ others)))) :
    let body := joinLiterals ((parts.map Piece.part ++ rest).map (Piece.fragment ring))
    let added := Draft.addRuns branch guard draft ring runs [] body
    let made := (passagesFrom branch guard runs parts rest).map Piece.passage
    Represents added.2 added.1 (shown ++ made) (made ++ others) ∧ ring.Extends added.2 := by
  induction rest generalizing ring draft shown others runs parts with
  | nil =>
    intro body added made
    have run := h.addRun guard sub unused
    have same : body = joinLiterals (parts.map (Part.fragment ring)) := by
      simp only [body, List.append_nil, List.map_map]
      rfl
    have drawn : added = ((draft.addRun ring branch runs body guard).1,
        (draft.addRun ring branch runs body guard).2.1) :=
      addRuns_of_no_choice draft ring branch runs [] guard fun _ mem => isChoice_of_parts (same ▸ mem)
    rw [drawn, same]
    exact ⟨run.1, run.2.1⟩
  | cons piece rest ih =>
    cases piece with
    | part own =>
      have moved : parts.map Piece.part ++ (.part own :: rest ++ others) =
          (parts ++ [own]).map Piece.part ++ (rest ++ others) := by simp
      have moved' : parts.map Piece.part ++ .part own :: rest =
          (parts ++ [own]).map Piece.part ++ rest := by simp
      rw [moved] at h unused
      rw [moved']
      exact ih (parts ++ [own]) h sub unused
    | passage inner =>
      intro body added made
      let run := joinLiterals (parts.map (Part.fragment ring))
      let first := draft.addRun ring branch runs run guard
      let key := ring.keyOf inner.choiceSlot
      let before := (passageOfRun branch runs guard parts).map Piece.passage ++
        [.passage (inner.under guard)]
      have split : body = run ++ .choice key :: joinLiterals (rest.map (Piece.fragment ring)) := by
        have := joinLiterals_split (.choice key) rfl (parts.map (Part.fragment ring))
          (rest.map (Piece.fragment ring))
        simp only [body, List.map_append, List.map_cons, List.map_map]
        exact this
      obtain ⟨hfirst, ext, next⟩ := h.addChoice guard
        (List.subset_append_of_subset_right rest sub) unused
      have next : first.2.2 = if parts.isEmpty then runs else runs + 1 := next
      have same : rest.map (Piece.fragment first.2.1) = rest.map (Piece.fragment ring) :=
        h.map_fragment_extend ext fun _ mem => by simp [mem]
      have drawn : added = Draft.addRuns branch guard
          ((first.1.guardChoice key guard).push (.choice key)) first.2.1
          (if parts.isEmpty then runs else runs + 1) []
          (joinLiterals (rest.map (Piece.fragment first.2.1))) := by
        simp only [added, split]
        rw [same, ← next]
        exact addRuns_choice draft ring branch runs [] guard fun _ mem => isChoice_of_parts mem
      have order : (before ++ (rest ++ others)).Perm (rest ++ (before ++ others)) :=
        List.perm_append_comm_assoc ..
      obtain ⟨later, ext'⟩ := ih [] (hfirst.perm order) (append_subset_append sub)
        (unused.behindChoice guard)
      have made_eq : made = before ++ (passagesFrom branch guard
          (if parts.isEmpty then runs else runs + 1) [] rest).map Piece.passage := by
        simp [made, before, passagesFrom]
      rw [drawn, made_eq, ← List.append_assoc shown, List.append_assoc before]
      exact ⟨later.perm (List.perm_append_comm_assoc ..), ext.trans ext'⟩

/-- A sketch's fragments have a choice among them if a piece is a passage. -/
theorem any_isChoice (ring : Keyring) (pieces : List Piece) :
    (fragmentsOf ring pieces).any Fragment.isChoice = pieces.any Piece.isPassage := by
  rw [Bool.eq_iff_iff, List.any_eq_true, List.any_eq_true]
  constructor
  · rintro ⟨fragment, mem, choice⟩
    cases fragment with
    | choice key =>
      obtain ⟨piece, hpiece, same⟩ := List.mem_map.1 ((mem_joinLiterals_iff rfl).1 mem)
      cases piece with
      | part own => cases own <;> simp [Piece.fragment, Part.fragment] at same
      | passage inner => exact ⟨_, hpiece, rfl⟩
    | _ => simp [Fragment.isChoice] at choice
  · rintro ⟨piece, mem, passage⟩
    cases piece with
    | part own => simp [Piece.isPassage] at passage
    | passage inner => exact ⟨_, (mem_joinLiterals_iff rfl).2 (List.mem_map.2 ⟨_, mem, rfl⟩), rfl⟩

/-- **Adding a branch** makes passages of its body and shows them. -/
theorem addBranch {child : Draft} {pieces : List Piece} (h : Represents ring draft shown shown)
    (hchild : Represents ring child pieces pieces)
    (apart : ∀ slot ∈ slotsIn pieces, slot ∉ slotsIn shown)
    (unused : Unused branch 0 (slotsIn (pieces ++ shown))) :
    let added := draft.addBranch ring branch guard child
    let made := (passagesOf branch guard pieces).map Piece.passage
    Represents added.2 added.1 (shown ++ made) (shown ++ made) ∧ ring.Extends added.2 := by
  intro added made
  have registered := (h.register hchild apart).perm List.perm_append_comm
  have choices : child.fragments.any Fragment.isChoice = pieces.any Piece.isPassage := by
    rw [hchild.fragments, any_isChoice]
  simp only [added, made, Draft.addBranch, passagesOf, choices]
  split
  · have result := registered.addRuns guard [] pieces
      (List.Subset.refl shown) unused
    rw [hchild.fragments]
    exact ⟨result.1.perm List.perm_append_comm, result.2⟩
  · rename_i none
    have plain := parts_of_no_passage none
    rw [plain] at registered unused
    have body : child.fragments = joinLiterals ((partsOf pieces).map (Part.fragment ring)) := by
      rw [hchild.fragments, fragmentsOf]
      conv_lhs => rw [plain, List.map_map]
      rfl
    have result := registered.addSection guard (List.Subset.refl shown) unused
    rw [body]
    exact ⟨result.1.perm (List.perm_append_singleton _ shown).symm, result.2⟩

end Represents
end Outline
end MailMerge
