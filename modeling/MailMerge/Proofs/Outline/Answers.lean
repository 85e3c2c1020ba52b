/-
# What a recipient reads of a sketch

In the environment of a recipient a passage is shown if its guard holds, gives nothing
if it does not, and gives the text of the guard's fault if the passage reports it. The
passages that a branch is cut into read as the branch itself if the branch's guard holds,
and come out as that guard otherwise.
-/

import MailMerge.Proofs.Outline.Recipient
import MailMerge.Proofs.Outline.Within

namespace MailMerge

/-- The text that a contained fault leaves in the output. -/
def Render.Fault.text (fault : Render.Fault) : String := "Liquid error: " ++ fault.message

/-- **What a result comes to:** a fault is contained, unless it is to be handed back. -/
def Render.settled (strict : Bool) : Except Render.Fault String → Except Render.Fault String
  | .ok text => .ok text
  | .error fault => if strict then .error fault else .ok fault.text

theorem Render.contained_fst (result : Except Render.Fault String) (env : Render.Env) :
    (Render.Outcome.contained (result, env)).1 = Render.settled env.strict result := by
  cases result with
  | ok text => rfl
  | error fault =>
    cases strict : env.strict <;>
      simp [Render.Outcome.contained, Render.Env.contain, Render.settled, strict, Render.Fault.text]

namespace Outline

open Render (Env)

/-! ### Reading -/

theorem fillParts_append (entry : Slot → String) (first second : List Part) :
    fillParts entry (first ++ second) = (fillParts entry first).andThen (fillParts entry second) := by
  induction first with
  | nil => exact (Filled.nil_andThen _).symm
  | cons part rest ih => rw [List.cons_append, fillParts, fillParts, ih, Filled.andThen_assoc]

section Reading

variable (own : Env) (entry : Slot → String)

/-- **A passage as its guard has it** in an environment. -/
def readPassage (passage : Passage) : Filled :=
  match passage.guard.check own with
  | .ok true => fillParts entry passage.parts
  | .ok false => ("", false)
  | .error (owner, fault) => (if passage.reports.contains owner then fault.text else "", false)

/-- A piece as it is read. -/
def readPiece : Piece → Filled
  | .part part => fillPart entry part
  | .passage passage => readPassage own entry passage

/-- **A sketch as it is read,** up to the end of all output. -/
def readPieces : List Piece → Filled
  | [] => ("", false)
  | piece :: rest => (readPiece own entry piece).andThen (readPieces rest)

/-- Passages as they are read. -/
def readPassages (passages : List Passage) : Filled := readPieces own entry (passages.map .passage)

/-- **Answers of a recipient:** the entries of outputs are what these come to, and where
faults are handed back there is none to report. -/
structure Answers (pieces : List Piece) : Prop where
  output : ∀ piece ∈ pieces, ∀ source, .output source ∈ piece.parts →
    Render.settled own.strict (Render.renderOutput own source) = .ok (entry (.output source.id))
  choice : ∀ passage, .passage passage ∈ pieces → ∀ owner fault,
    passage.guard.check own = .error (owner, fault) → passage.reports.contains owner = true →
      own.strict = false

end Reading

section Passages

variable {own : Env} {entry : Slot → String}

theorem readPieces_append (first second : List Piece) :
    readPieces own entry (first ++ second) =
      (readPieces own entry first).andThen (readPieces own entry second) := by
  induction first with
  | nil => exact (Filled.nil_andThen _).symm
  | cons piece rest ih => rw [List.cons_append, readPieces, readPieces, ih, Filled.andThen_assoc]

theorem readPassages_append (first second : List Passage) :
    readPassages own entry (first ++ second) =
      (readPassages own entry first).andThen (readPassages own entry second) := by
  rw [readPassages, List.map_append, readPieces_append]
  rfl

theorem readPassages_cons (first : Passage) (rest : List Passage) :
    readPassages own entry (first :: rest) =
      (readPassage own entry first).andThen (readPassages own entry rest) := rfl

theorem Answers.subset {pieces others : List Piece} (h : Answers own entry pieces)
    (sub : others ⊆ pieces) : Answers own entry others :=
  ⟨fun piece mem => h.output piece (sub mem), fun passage mem => h.choice passage (sub mem)⟩

/-- Passages that read as nothing. -/
theorem readPassages_nothing {passages : List Passage}
    (h : ∀ passage ∈ passages, readPassage own entry passage = ("", false)) :
    readPassages own entry passages = ("", false) := by
  induction passages with
  | nil => rfl
  | cons first rest ih =>
    obtain ⟨nothing, others⟩ := List.forall_mem_cons.1 h
    rw [readPassages_cons, nothing, ih others, Filled.nil_andThen]

/-- A passage that is to report one more conditional reads the same, unless it is that
one's fault it comes to. -/
theorem readPassage_reporting {passage : Passage} {owner : Nat}
    (h : ∀ fault, passage.guard.check own ≠ .error (owner, fault)) :
    readPassage own entry (passage.reporting owner) = readPassage own entry passage := by
  unfold readPassage Passage.reporting
  dsimp only
  split
  · rfl
  · rfl
  · rename_i other fault failed
    have different : other ≠ owner := by
      rintro rfl
      exact h fault failed
    simp [different]

theorem readPassages_reportFirst {passages : List Passage} {owner : Nat}
    (h : ∀ passage ∈ passages, ∀ fault, passage.guard.check own ≠ .error (owner, fault)) :
    readPassages own entry (reportFirst owner passages) = readPassages own entry passages := by
  cases passages with
  | nil => rfl
  | cons first rest =>
    rw [reportFirst, readPassages_cons, readPassages_cons,
      readPassage_reporting (h first List.mem_cons_self)]

/-! ### The passages of a branch that is shown -/

section Shown

variable {branch : Nat} {guard : Guard} (holds : guard.check own = .ok true)

include holds

theorem readPassages_passageOfRun (run : Nat) (parts : List Part) :
    readPassages own entry (passageOfRun branch run guard parts) = fillParts entry parts := by
  unfold passageOfRun
  split
  · rename_i empty
    rw [List.isEmpty_iff.1 empty]
    rfl
  · rw [readPassages_cons, readPassage, holds]
    exact Filled.andThen_nil _

/-- Under a guard that holds a passage reads as itself. -/
theorem readPassage_under {inner : Passage} (apart : ∀ id ∈ guard.branches, id ∉ inner.guard.branches) :
    readPassage own entry (inner.under guard) = readPassage own entry inner := by
  have check : (inner.under guard).guard.check own = inner.guard.check own := by
    rw [Passage.under, Guard.check_under apart, holds]
  rw [readPassage, check]
  rfl

theorem readPassages_passagesFrom (rest : List Piece) (runs : Nat) (parts : List Part)
    (apart : ∀ inner, .passage inner ∈ rest → ∀ id ∈ guard.branches, id ∉ inner.guard.branches) :
    readPassages own entry (passagesFrom branch guard runs parts rest) =
      (fillParts entry parts).andThen (readPieces own entry rest) := by
  induction rest generalizing runs parts with
  | nil =>
    rw [passagesFrom, readPassages_passageOfRun holds]
    exact (Filled.andThen_nil _).symm
  | cons piece rest ih =>
    have others := fun inner mem => apart inner (List.mem_cons_of_mem _ mem)
    cases piece with
    | part own =>
      rw [passagesFrom, ih _ _ others, fillParts_append, readPieces, Filled.andThen_assoc]
      refine congrArg _ ?_
      rw [fillParts, fillParts, Filled.andThen_nil]
      rfl
    | passage inner =>
      rw [passagesFrom, readPassages_append, readPassages_passageOfRun holds, readPassages_cons,
        readPassage_under holds (apart inner List.mem_cons_self), ih _ _ others, fillParts,
        Filled.nil_andThen]
      rfl

omit holds in
theorem readPieces_parts (parts : List Part) :
    readPieces own entry (parts.map .part) = fillParts entry parts := by
  induction parts with
  | nil => rfl
  | cons part rest ih =>
    rw [List.map_cons, readPieces, ih]
    rfl

/-- **The passages of a branch that is shown** read as the branch. -/
theorem readPassages_passagesOf {body : List Piece}
    (apart : ∀ inner, .passage inner ∈ body → ∀ id ∈ guard.branches, id ∉ inner.guard.branches) :
    readPassages own entry (passagesOf branch guard body) = readPieces own entry body := by
  unfold passagesOf
  split
  · rw [readPassages_passagesFrom holds body 0 [] apart, fillParts, Filled.nil_andThen]
  · rename_i none
    rw [readPassages_cons, readPassage, holds]
    have parts := parts_of_no_passage none
    rw [parts, readPieces_parts, ← parts]
    exact Filled.andThen_nil _

end Shown

/-! ### The passages of a branch that is not shown -/

/-- **A passage of a branch** is a run of it, or a passage in it under its guard. -/
theorem mem_passagesOf {branch : Nat} {guard : Guard} {body : List Piece} {passage : Passage}
    (mem : passage ∈ passagesOf branch guard body) :
    passage.branch = branch ∧ passage.guard = guard ∧ passage.reports = [] ∨
      ∃ inner, .passage inner ∈ body ∧ passage = inner.under guard := by
  have ofRun : ∀ run parts, passage ∈ passageOfRun branch run guard parts →
      passage.branch = branch ∧ passage.guard = guard ∧ passage.reports = [] := by
    intro run parts mem
    unfold passageOfRun at mem
    split at mem
    · exact (List.not_mem_nil mem).elim
    · obtain rfl := List.mem_singleton.1 mem
      exact ⟨rfl, rfl, rfl⟩
  have general : ∀ rest ⊆ body, ∀ runs parts, passage ∈ passagesFrom branch guard runs parts rest →
      passage.branch = branch ∧ passage.guard = guard ∧ passage.reports = [] ∨
        ∃ inner, .passage inner ∈ body ∧ passage = inner.under guard := by
    intro rest sub
    induction rest with
    | nil => exact fun runs parts mem => .inl (ofRun runs parts mem)
    | cons piece rest ih =>
      obtain ⟨hpiece, others⟩ := List.cons_subset.1 sub
      intro runs parts mem
      cases piece with
      | part own => exact ih others _ _ mem
      | passage inner =>
        rcases List.mem_append.1 mem with mem | mem
        · exact .inl (ofRun runs parts mem)
        · rcases List.mem_cons.1 mem with same | mem
          · exact .inr ⟨inner, hpiece, same⟩
          · exact ih others _ _ mem
  unfold passagesOf at mem
  split at mem
  · exact general body (List.Subset.refl _) 0 [] mem
  · obtain rfl := List.mem_singleton.1 mem
    exact .inl ⟨rfl, rfl, rfl⟩

/-- Every branch is shown by some passage. -/
theorem passagesOf_ne_nil (branch : Nat) (guard : Guard) (body : List Piece) :
    passagesOf branch guard body ≠ [] := by
  have general : ∀ rest : List Piece, rest.any Piece.isPassage = true → ∀ runs parts,
      passagesFrom branch guard runs parts rest ≠ [] := by
    intro rest
    induction rest with
    | nil => exact fun none => Bool.noConfusion none
    | cons piece rest ih =>
      intro some runs parts
      cases piece with
      | part own => exact ih some runs _
      | passage inner => simp [passagesFrom]
  unfold passagesOf
  split
  · rename_i some
    exact general body some 0 []
  · exact List.cons_ne_nil _ _

/-- **The passages of a branch come out as its guard,** if that does not hold. -/
theorem check_passagesOf {branch : Nat} {guard : Guard} {body : List Piece}
    (apart : ∀ inner, .passage inner ∈ body → ∀ id ∈ guard.branches, id ∉ inner.guard.branches)
    (hidden : guard.check own ≠ .ok true) :
    ∀ passage ∈ passagesOf branch guard body, passage.guard.check own = guard.check own := by
  intro passage mem
  rcases mem_passagesOf mem with ⟨-, same, -⟩ | ⟨inner, hinner, rfl⟩
  · rw [same]
  · rw [Passage.under, Guard.check_under (apart inner hinner)]
    split
    · rename_i holds
      exact absurd holds hidden
    · rfl

/-- What passages come to of which none is shown, with the one that reports. -/
def reported : Except (Nat × Render.Fault) Bool → Filled
  | .error (_, fault) => (fault.text, false)
  | .ok _ => ("", false)

/-- A passage that is not shown and does not report its fault reads as nothing. -/
theorem readPassage_nothing {passage : Passage} {owner : Nat}
    (hidden : passage.guard.check own ≠ .ok true) (unreported : passage.reports.contains owner = false)
    (owned : ∀ other fault, passage.guard.check own = .error (other, fault) → other = owner) :
    readPassage own entry passage = ("", false) := by
  unfold readPassage
  split
  · rename_i holds
    exact absurd holds hidden
  · rfl
  · rename_i other fault failed
    rw [owned other fault failed, unreported]
    rfl

/-- **Passages of which none is shown** come to what the first one reports. -/
theorem readPassages_reported {passages : List Passage} (nonempty : passages ≠ []) {owner : Nat}
    {outcome : Except (Nat × Render.Fault) Bool}
    (h : ∀ passage ∈ passages, passage.guard.check own = outcome ∧ passage.reports.contains owner = false)
    (hidden : outcome ≠ .ok true) (owned : ∀ other fault, outcome = .error (other, fault) → other = owner) :
    readPassages own entry (reportFirst owner passages) = reported outcome := by
  obtain ⟨first, rest, rfl⟩ := List.exists_cons_of_ne_nil nonempty
  obtain ⟨⟨check, -⟩, others⟩ := List.forall_mem_cons.1 h
  have nothing : readPassages own entry rest = ("", false) := by
    refine readPassages_nothing fun passage mem => ?_
    obtain ⟨check, unreported⟩ := others passage mem
    exact readPassage_nothing (check ▸ hidden) unreported (check ▸ owned)
  rw [reportFirst, readPassages_cons, nothing, Filled.andThen_nil, readPassage, Passage.reporting]
  dsimp only
  rw [check]
  obtain ⟨other, fault⟩ | holds := outcome
  · obtain rfl := owned other fault rfl
    simp [reported]
  · cases holds with
    | true => exact absurd rfl hidden
    | false => rfl

end Passages

/-! ### Answers about a branch -/

section Transfer

variable {own : Env} {entry : Slot → String}

/-- Passages that report more conditionals have answers only if they have. -/
theorem Answers.unreport {passages : List Passage} {owner : Nat}
    (h : Answers own entry ((reportFirst owner passages).map .passage)) :
    Answers own entry (passages.map .passage) := by
  cases passages with
  | nil => exact h
  | cons first rest =>
    refine ⟨fun piece mem source hsource => ?_, fun passage mem => ?_⟩
    · rcases List.mem_cons.1 mem with rfl | mem
      · exact h.output (.passage (first.reporting owner)) List.mem_cons_self source hsource
      · exact h.output piece (List.mem_cons_of_mem _ mem) source hsource
    · rcases List.mem_cons.1 mem with same | mem
      · obtain rfl := Piece.passage.inj same
        intro other fault failed reports
        refine h.choice (passage.reporting owner) List.mem_cons_self other fault failed ?_
        rw [List.contains_iff_mem] at reports ⊢
        exact List.mem_append_left _ reports
      · exact h.choice passage (List.mem_cons_of_mem _ mem)

theorem under_mem_passagesOf {branch : Nat} {guard : Guard} {body : List Piece} {inner : Passage}
    (mem : .passage inner ∈ body) : inner.under guard ∈ passagesOf branch guard body := by
  have general : ∀ rest : List Piece, .passage inner ∈ rest → ∀ runs parts,
      inner.under guard ∈ passagesFrom branch guard runs parts rest := by
    intro rest
    induction rest with
    | nil => exact fun mem => (List.not_mem_nil mem).elim
    | cons piece rest ih =>
      intro mem runs parts
      cases piece with
      | part own =>
        exact ih ((List.mem_cons.1 mem).resolve_left fun same => Piece.noConfusion same) runs _
      | passage other =>
        refine List.mem_append_right _ ?_
        rcases List.mem_cons.1 mem with same | mem
        · obtain rfl := Piece.passage.inj same
          exact List.mem_cons_self
        · exact List.mem_cons_of_mem _ (ih mem _ [])
  unfold passagesOf
  split
  · exact general body mem 0 []
  · rename_i none
    exact absurd (List.any_eq_true.2 ⟨_, mem, rfl⟩) none

theorem part_mem_passagesOf (branch : Nat) (guard : Guard) {body : List Piece} {part : Part}
    (mem : .part part ∈ body) : ∃ passage ∈ passagesOf branch guard body, part ∈ passage.parts := by
  have general : ∀ rest : List Piece, ∀ runs parts, part ∈ parts ∨ .part part ∈ rest →
      ∃ passage ∈ passagesFrom branch guard runs parts rest, part ∈ passage.parts := by
    have ofRun : ∀ run parts, part ∈ parts →
        ∃ passage ∈ passageOfRun branch run guard parts, part ∈ passage.parts := by
      intro run parts mem
      unfold passageOfRun
      rw [if_neg (by simp [List.ne_nil_of_mem mem])]
      exact ⟨_, List.mem_singleton_self _, mem⟩
    intro rest
    induction rest with
    | nil => exact fun runs parts mem => ofRun runs parts (mem.resolve_right List.not_mem_nil)
    | cons piece rest ih =>
      intro runs parts mem
      cases piece with
      | part own =>
        refine ih runs _ ?_
        rcases mem with mem | mem
        · exact .inl (List.mem_append_left _ mem)
        · rcases List.mem_cons.1 mem with same | mem
          · obtain rfl := Piece.part.inj same
            exact .inl (List.mem_append_right _ (List.mem_singleton_self _))
          · exact .inr mem
      | passage inner =>
        rcases mem with mem | mem
        · obtain ⟨passage, found, hpart⟩ := ofRun runs parts mem
          exact ⟨passage, List.mem_append_left _ found, hpart⟩
        · have mem := (List.mem_cons.1 mem).resolve_left fun same => Piece.noConfusion same
          obtain ⟨passage, found, hpart⟩ := ih (if parts.isEmpty then runs else runs + 1) [] (.inr mem)
          exact ⟨passage, List.mem_append_right _ (List.mem_cons_of_mem _ found), hpart⟩
  unfold passagesOf
  split
  · exact general body 0 [] (.inr mem)
  · rename_i none
    refine ⟨_, List.mem_singleton_self _, ?_⟩
    rw [parts_of_no_passage none] at mem
    obtain ⟨found, hfound, same⟩ := List.mem_map.1 mem
    exact Piece.part.inj same ▸ hfound

/-- **Answers about the passages of a branch** are answers about the branch, if it is shown. -/
theorem Answers.body {branch : Nat} {guard : Guard} {body : List Piece}
    (h : Answers own entry ((passagesOf branch guard body).map .passage))
    (apart : ∀ inner, .passage inner ∈ body → ∀ id ∈ guard.branches, id ∉ inner.guard.branches)
    (holds : guard.check own = .ok true) : Answers own entry body := by
  refine ⟨fun piece mem source hsource => ?_, fun inner mem owner fault failed reports => ?_⟩
  · cases piece with
    | part part =>
      obtain rfl := List.mem_singleton.1 hsource
      obtain ⟨passage, found, hpart⟩ := part_mem_passagesOf branch guard mem
      exact h.output (.passage passage) (List.mem_map.2 ⟨passage, found, rfl⟩) source hpart
    | passage inner =>
      exact h.output (.passage (inner.under guard))
        (List.mem_map.2 ⟨_, under_mem_passagesOf mem, rfl⟩) source hsource
  · refine h.choice (inner.under guard) (List.mem_map.2 ⟨_, under_mem_passagesOf mem, rfl⟩) owner fault ?_
      reports
    rw [Passage.under, Guard.check_under (apart inner mem), holds]
    exact failed

end Transfer

end Outline
end MailMerge
