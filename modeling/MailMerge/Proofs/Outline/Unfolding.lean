/-
# Sections in sections, however deep

A section may show other sections, and an entry of the table can name them too. As long as no
section leads back to itself in this way, a text unfolds to one text in which no known key is
left (`Unfolds`), and that is what is filled in.

One pass is enough for that, in whatever order the keys are gone through: whatever is put in
the place of a key holds neither that key nor any that has been gone through before, so these
are gone from the text and from all sections for good. And a text in which a key is replaced
unfolds to nothing that it did not unfold to before.
-/

import Mathlib.Logic.Relation
import MailMerge.Proofs.Outline.Marked

namespace MailMerge
namespace Outline

open Text (occursIn replaceFrom)
open Relation (TransGen)

/-! ### What a text unfolds to -/

/-- **What a text unfolds to:** every known key gives way to what the text that it stands for
unfolds to. Unknown keys and other text are left as they are. -/
inductive Unfolds (meaning : String → Option String) : List Char → List Char → Prop
  | nil : Unfolds meaning [] []
  | plain {c : Char} (other : c ≠ openMark) {rest result : List Char}
      (others : Unfolds meaning rest result) : Unfolds meaning (c :: rest) (c :: result)
  | unknown {key : String} (own : isKey key = true) (none : meaning key = none)
      {rest result : List Char} (others : Unfolds meaning rest result) :
      Unfolds meaning (key.toList ++ rest) (key.toList ++ result)
  | known {key value : String} (own : isKey key = true) (stands : meaning key = some value)
      {inner : List Char} (inside : Unfolds meaning value.toList inner) {rest result : List Char}
      (others : Unfolds meaning rest result) : Unfolds meaning (key.toList ++ rest) (inner ++ result)

section Unfolds

variable {meaning : String → Option String}

/-- A character that starts no key comes first in what a text unfolds to. -/
theorem Unfolds.of_plain {c : Char} (other : c ≠ openMark) {rest whole : List Char}
    (h : Unfolds meaning (c :: rest) whole) :
    ∃ result, whole = c :: result ∧ Unfolds meaning rest result := by
  generalize same : c :: rest = chars at h
  cases h with
  | nil => cases same
  | plain _ others =>
    obtain ⟨rfl, rfl⟩ := List.cons.inj same
    exact ⟨_, rfl, others⟩
  | unknown own => exact absurd same.symm (isKey_append_ne_cons own other)
  | known own => exact absurd same.symm (isKey_append_ne_cons own other)

/-- **A key at the start** is unknown and stays, or what it stands for unfolds in its place. -/
theorem Unfolds.of_key {key : String} (own : isKey key = true) {rest whole : List Char}
    (h : Unfolds meaning (key.toList ++ rest) whole) :
    (meaning key = none ∧ ∃ result, whole = key.toList ++ result ∧ Unfolds meaning rest result) ∨
      ∃ value inner result, meaning key = some value ∧ whole = inner ++ result ∧
        Unfolds meaning value.toList inner ∧ Unfolds meaning rest result := by
  generalize same : key.toList ++ rest = chars at h
  cases h with
  | nil => exact absurd same (isKey_append_ne_nil own)
  | plain other => exact absurd same (isKey_append_ne_cons own other)
  | unknown own' none others =>
    obtain ⟨rfl, rfl⟩ := isKey_append_inj own own' same
    exact .inl ⟨none, _, rfl, others⟩
  | known own' stands inside others =>
    obtain ⟨rfl, rfl⟩ := isKey_append_inj own own' same
    exact .inr ⟨_, _, _, stands, rfl, inside, others⟩

/-- **A text unfolds to one text.** -/
theorem Unfolds.unique {chars first second : List Char} (h : Unfolds meaning chars first)
    (h' : Unfolds meaning chars second) : first = second := by
  induction h generalizing second with
  | nil =>
    generalize same : ([] : List Char) = chars at h'
    cases h' with
    | nil => rfl
    | plain => cases same
    | unknown own => exact absurd same.symm (isKey_append_ne_nil own)
    | known own => exact absurd same.symm (isKey_append_ne_nil own)
  | plain other _ ih =>
    obtain ⟨result, rfl, others⟩ := h'.of_plain other
    rw [ih others]
  | unknown own none _ ih =>
    rcases h'.of_key own with ⟨-, result, rfl, others⟩ | ⟨value, _, _, stands, -⟩
    · rw [ih others]
    · rw [none] at stands
      cases stands
  | known own stands _ _ inside others =>
    rcases h'.of_key own with ⟨none, -⟩ | ⟨value, inner, result, stands', rfl, inside', others'⟩
    · rw [none] at stands
      cases stands
    · obtain rfl := Option.some.inj (stands.symm.trans stands')
      rw [inside inside', others others']

/-- What texts that are put together unfold to. -/
theorem Unfolds.of_append {first : List Char} (marked : Marked first) {second whole : List Char}
    (h : Unfolds meaning (first ++ second) whole) :
    ∃ front back, whole = front ++ back ∧ Unfolds meaning first front ∧ Unfolds meaning second back := by
  induction marked generalizing whole with
  | nil => exact ⟨[], whole, rfl, .nil, h⟩
  | plain other _ ih =>
    obtain ⟨result, rfl, others⟩ := Unfolds.of_plain other h
    obtain ⟨front, back, rfl, start, rest⟩ := ih others
    exact ⟨_ :: front, back, rfl, .plain other start, rest⟩
  | key own _ ih =>
    rw [List.append_assoc] at h
    rcases h.of_key own with ⟨none, result, rfl, others⟩ | ⟨value, inner, result, stands, rfl, inside, others⟩
    · obtain ⟨front, back, rfl, start, rest⟩ := ih others
      exact ⟨_, back, (List.append_assoc ..).symm, .unknown own none start, rest⟩
    · obtain ⟨front, back, rfl, start, rest⟩ := ih others
      exact ⟨_, back, (List.append_assoc ..).symm, .known own stands inside start, rest⟩

/-- **A text without known keys** unfolds to itself. -/
theorem unfolds_self {chars : List Char} (marked : Marked chars)
    (absent : ∀ key, isKey key = true → meaning key ≠ none → occursIn key.toList chars = false) :
    Unfolds meaning chars chars := by
  induction marked with
  | nil => exact .nil
  | @plain c other rest _ ih =>
    refine .plain other (ih fun key own known => ?_)
    have apart : openMark ∉ [c] := fun mem => other (List.mem_singleton.1 mem).symm
    rw [← occursIn_apart own apart]
    exact absent key own known
  | @key found own rest _ ih =>
    have later : ∀ key, isKey key = true → meaning key ≠ none → key ≠ found ∧ occursIn key.toList rest = false := by
      intro key hkey known
      have nowhere := mt (occursIn_key hkey own rest).2 (Bool.eq_false_iff.1 (absent key hkey known))
      rw [not_or, Bool.not_eq_true] at nowhere
      exact nowhere
    refine .unknown own ?_ (ih fun key hkey known => (later key hkey known).2)
    exact Classical.byContradiction fun known => (later found own known).1 rfl

/-- **Replacing a key** by a text that unfolds to what it stands for brings about nothing new. -/
theorem Unfolds.of_replace {key source : String} (own : isKey key = true)
    (stands : meaning key = some source) {value : List Char} (hvalue : Marked value)
    (back : ∀ result, Unfolds meaning value result → Unfolds meaning source.toList result)
    {chars result : List Char} (marked : Marked chars)
    (h : Unfolds meaning (replaceFrom key.toList value 0 chars) result) :
    Unfolds meaning chars result := by
  induction marked generalizing result with
  | nil => exact h
  | plain other _ ih =>
    rw [replaceFrom_plain own value other] at h
    obtain ⟨result, rfl, others⟩ := Unfolds.of_plain other h
    exact .plain other (ih others)
  | @key found hfound rest _ ih =>
    by_cases same : found = key
    · subst same
      rw [replaceFrom_own own] at h
      obtain ⟨inner, result, rfl, inside, others⟩ := Unfolds.of_append hvalue h
      exact .known own stands (back inner inside) (ih others)
    · rw [replaceFrom_other own value hfound same] at h
      rcases h.of_key hfound with ⟨none, result, rfl, others⟩ | ⟨_, _, _, stands', rfl, inside, others⟩
      · exact .unknown hfound none (ih others)
      · exact .known hfound stands' inside (ih others)

end Unfolds

/-! ### Replacing in a text and in the sections -/

section Work

variable {meaning : String → Option String}

/-- **What a text has become** while keys in it were replaced: it unfolds to nothing that it did
not unfold to at first. -/
structure Derived (meaning : String → Option String) (source text : String) : Prop where
  marked : Marked text.toList
  back : ∀ result, Unfolds meaning text.toList result → Unfolds meaning source.toList result

/-- The text that one key stands for holds another that is known. -/
def Points (meaning : String → Option String) (first second : String) : Prop :=
  ∃ value, meaning first = some value ∧ meaning second ≠ none ∧ Text.contains value second = true

/-- **What the text under a key has become:** the known keys in it are keys that one gets to
from this one. -/
structure Stems (meaning : String → Option String) (key text : String) : Prop where
  derived : ∃ source, meaning key = some source ∧ Derived meaning source text
  reached : ∀ other, meaning other ≠ none → Text.contains text other = true →
    TransGen (Points meaning) key other

theorem Derived.refl {text : String} (marked : Marked text.toList) : Derived meaning text text :=
  ⟨marked, fun _ h => h⟩

/-- At first a key has the text that it stands for. -/
theorem Stems.start {key text : String} (stands : meaning key = some text)
    (marked : Marked text.toList) : Stems meaning key text :=
  ⟨⟨text, stands, .refl marked⟩, fun _ known inside => .single ⟨text, stands, known, inside⟩⟩

theorem Stems.known {key text : String} (h : Stems meaning key text) : meaning key ≠ none := by
  obtain ⟨source, stands, -⟩ := h.derived
  rw [stands]
  exact Option.some_ne_none source

theorem Stems.marked {key text : String} (h : Stems meaning key text) : Marked text.toList := by
  obtain ⟨source, -, derived⟩ := h.derived
  exact derived.marked

variable (keys : ∀ key, meaning key ≠ none → isKey key = true)

include keys

/-- **Replacing a key** by what has become of its text. -/
theorem Derived.replaceKey {source text key value : String} (h : Derived meaning source text)
    (stems : Stems meaning key value) : Derived meaning source (replaceKey key value text).1 := by
  have own := keys key stems.known
  obtain ⟨origin, stands, derived⟩ := stems.derived
  refine ⟨marked_replaceKey own derived.marked h.marked, fun result unfolds => h.back result ?_⟩
  rw [replaceKey_fst, String.toList_ofList] at unfolds
  exact unfolds.of_replace own stands derived.marked derived.back h.marked

theorem Stems.replaceKey {name text key value : String} (h : Stems meaning name text)
    (stems : Stems meaning key value) : Stems meaning name (replaceKey key value text).1 := by
  obtain ⟨source, stands, derived⟩ := h.derived
  refine ⟨⟨source, stands, derived.replaceKey keys stems⟩, fun other known inside => ?_⟩
  rcases (contains_replaceKey (keys key stems.known) stems.marked h.marked (keys other known)).1 inside with
    ⟨-, before⟩ | ⟨place, new⟩
  · exact h.reached other known before
  · exact (h.reached key stems.known place).trans (stems.reached other known new)

omit keys in
/-- What becomes of the sections when a key is replaced. -/
theorem Work.mem_bodies_replace {work : Work} {key value : String} {exempt : Option String}
    {body : String × String} (mem : body ∈ (work.replace key value exempt).bodies.pairs) :
    ∃ text, (body.1, text) ∈ work.bodies.pairs ∧
      (body.2 = (Outline.replaceKey key value text).1 ∨ exempt = some body.1 ∧ body.2 = text) := by
  change body ∈ (replaceInBodies key value exempt work.bodies.pairs).1 at mem
  generalize work.bodies.pairs = pairs at mem ⊢
  induction pairs with
  | nil => exact (List.not_mem_nil mem).elim
  | cons first rest ih =>
    rw [replaceInBodies] at mem
    dsimp only at mem
    split at mem
    · rename_i own
      rcases List.mem_cons.1 mem with rfl | later
      · exact ⟨first.2, List.mem_cons_self, .inr ⟨own, rfl⟩⟩
      · obtain ⟨text, inside, became⟩ := ih later
        exact ⟨text, List.mem_cons_of_mem _ inside, became⟩
    · rcases List.mem_cons.1 mem with rfl | later
      · exact ⟨first.2, List.mem_cons_self, .inl rfl⟩
      · obtain ⟨text, inside, became⟩ := ih later
        exact ⟨text, List.mem_cons_of_mem _ inside, became⟩

omit keys in
/-- The sections keep their names. -/
theorem Work.keys_bodies_replace (work : Work) (key value : String) (exempt : Option String) :
    (work.replace key value exempt).bodies.keys = work.bodies.keys := by
  change (replaceInBodies key value exempt work.bodies.pairs).1.map (·.1) = work.bodies.pairs.map (·.1)
  induction work.bodies.pairs with
  | nil => rfl
  | cons first rest ih =>
    rw [replaceInBodies]
    dsimp only
    split <;> rw [List.map_cons, List.map_cons, ih]

/-- **Work underway on a text:** the text and the sections as far as they are filled in. -/
structure Underway (meaning : String → Option String) (text : String) (work : Work) : Prop where
  output : Derived meaning text work.output
  bodies : ∀ body ∈ work.bodies.pairs, Stems meaning body.1 body.2

/-- **A key that is gone,** from the text and from all sections. -/
structure Work.Lacks (work : Work) (key : String) : Prop where
  output : Text.contains work.output key = false
  bodies : ∀ body ∈ work.bodies.pairs, Text.contains body.2 key = false

section Replace

variable {text key value : String} {work : Work} (h : Underway meaning text work)
  (stems : Stems meaning key value) (exempt : Option String)

include h stems

/-- Replacing goes on with the work. -/
theorem Underway.replace : Underway meaning text (work.replace key value exempt) where
  output := h.output.replaceKey keys stems
  bodies := by
    intro body mem
    obtain ⟨before, inside, same | ⟨-, same⟩⟩ := Work.mem_bodies_replace mem
    · rw [same]
      exact (h.bodies _ inside).replaceKey keys stems
    · rw [same]
      exact h.bodies _ inside

/-- **A key that is gone does not come back** if it is not in what is put in. -/
theorem Underway.lacks_replace {other : String} (known : meaning other ≠ none)
    (gone : work.Lacks other) (free : Text.contains value other = false) :
    (work.replace key value exempt).Lacks other := by
  have kept : ∀ text : String, Marked text.toList → Text.contains text other = false →
      Text.contains (replaceKey key value text).1 other = false := by
    intro text marked absent
    rw [← Bool.not_eq_true, contains_replaceKey (keys key stems.known) stems.marked marked (keys other known),
      absent, free]
    simp
  refine ⟨kept _ h.output.marked gone.output, fun body mem => ?_⟩
  obtain ⟨before, inside, same | ⟨-, same⟩⟩ := Work.mem_bodies_replace mem
  · rw [same]
    exact kept _ (h.bodies _ inside).marked (gone.bodies _ inside)
  · rw [same]
    exact gone.bodies _ inside

/-- **A key is gone when it has been replaced,** if it is neither in what is put in nor in the
section that is left out. -/
theorem Underway.lacks_replaced (free : Text.contains value key = false)
    (apart : ∀ body ∈ work.bodies.pairs, exempt = some body.1 → Text.contains body.2 key = false) :
    (work.replace key value exempt).Lacks key := by
  have own := keys key stems.known
  have gone : ∀ text : String, Marked text.toList →
      Text.contains (replaceKey key value text).1 key = false := by
    intro text marked
    rw [← Bool.not_eq_true, contains_replaceKey own stems.marked marked own, free]
    simp
  refine ⟨gone _ h.output.marked, fun body mem => ?_⟩
  obtain ⟨before, inside, same | ⟨left_out, same⟩⟩ := Work.mem_bodies_replace mem
  · rw [same]
    exact gone _ (h.bodies _ inside).marked
  · rw [same]
    exact apart _ inside left_out

end Replace

/-- **The keys of the table are gone** once they have been replaced, if no entry holds one. -/
theorem Underway.replaceCells {text : String} {cells : List (String × String)} {work : Work}
    (h : Underway meaning text work) (stems : ∀ cell ∈ cells, Stems meaning cell.1 cell.2) :
    Underway meaning text (work.replaceCells cells) ∧
      (work.replaceCells cells).bodies.keys = work.bodies.keys ∧
      ∀ other, meaning other ≠ none → (∀ cell ∈ cells, Text.contains cell.2 other = false) →
        work.Lacks other ∨ other ∈ cells.map (·.1) → (work.replaceCells cells).Lacks other := by
  induction cells generalizing work with
  | nil => exact ⟨h, rfl, fun other _ _ gone => gone.resolve_right List.not_mem_nil⟩
  | cons cell rest ih =>
    obtain ⟨own, others⟩ := List.forall_mem_cons.1 stems
    obtain ⟨underway, names, later⟩ := ih (h.replace keys own none) others
    refine ⟨underway, names.trans (Work.keys_bodies_replace ..), fun other known free gone => ?_⟩
    obtain ⟨here, there⟩ := List.forall_mem_cons.1 free
    refine later other known there ?_
    rw [List.map_cons, List.mem_cons] at gone
    rcases gone with before | rfl | after
    · exact .inl (h.lacks_replace keys own none known before here)
    · exact .inl (h.lacks_replaced keys own none here fun _ _ none => by cases none)
    · exact .inr after

/-- **The keys of the sections are gone** once they have been replaced, if none leads back to
itself. -/
theorem Underway.replaceSections {text : String} {names : List String} {work : Work}
    (h : Underway meaning text work) (listed : ∀ name ∈ names, name ∈ work.bodies.keys)
    (apart : ∀ name ∈ names, ¬ TransGen (Points meaning) name name) :
    Underway meaning text (work.replaceSections names) ∧
      ∀ other, meaning other ≠ none →
        work.Lacks other ∨ other ∈ names → (work.replaceSections names).Lacks other := by
  induction names generalizing work with
  | nil => exact ⟨h, fun other _ gone => gone.resolve_right List.not_mem_nil⟩
  | cons name rest ih =>
    obtain ⟨own, others⟩ := List.forall_mem_cons.1 apart
    obtain ⟨inside, elsewhere⟩ := List.forall_mem_cons.1 listed
    obtain ⟨body, found⟩ : ∃ body, work.bodies.find? name = some body :=
      Option.ne_none_iff_exists'.1 fun none => Dict.findIn_eq_none_iff.1 none inside
    have mem := Dict.mem_pairs_of_find? found
    have stems := h.bodies _ mem
    have step : work.replaceSections (name :: rest) =
        (work.replace name body (some name)).replaceSections rest := by
      rw [Work.replaceSections, List.foldl_cons, found]
      rfl
    rw [step]
    have still : ∀ other ∈ rest, other ∈ (work.replace name body (some name)).bodies.keys := by
      rw [Work.keys_bodies_replace]
      exact elsewhere
    obtain ⟨underway, later⟩ := ih (h.replace keys stems (some name)) still others
    refine ⟨underway, fun other known gone => later other known ?_⟩
    rw [List.mem_cons] at gone
    rcases gone with before | rfl | after
    · exact .inl (h.lacks_replace keys stems _ known before (before.bodies _ mem))
    · have free : ∀ body, (other, body) ∈ work.bodies.pairs → Text.contains body other = false :=
        fun body mem => Bool.eq_false_iff.2 fun found => own ((h.bodies _ mem).reached other known found)
      refine .inl (h.lacks_replaced keys stems _ (free body mem) fun body mem same => ?_)
      exact free body.2 (Option.some.inj same ▸ mem)
    · exact .inr after

/-- **After one pass no known key is left,** if no section leads back to itself and no entry holds
a key of the table. -/
theorem Underway.pass {text : String} {sections : Dict String} {cells : List (String × String)}
    {names : List String} (h : Underway meaning text ⟨text, sections, false⟩)
    (stems : ∀ cell ∈ cells, Stems meaning cell.1 cell.2)
    (free : ∀ cell ∈ cells, ∀ other ∈ cells, Text.contains cell.2 other.1 = false)
    (listed : ∀ name ∈ names, name ∈ sections.keys)
    (apart : ∀ name ∈ names, ¬ TransGen (Points meaning) name name)
    (all : ∀ key, meaning key ≠ none → key ∈ cells.map (·.1) ∨ key ∈ names) :
    Underway meaning text (Outline.pass cells names none text sections) ∧
      ∀ key, meaning key ≠ none → (Outline.pass cells names none text sections).Lacks key := by
  obtain ⟨entries, same, no_entry⟩ := h.replaceCells keys stems
  obtain ⟨bodies, no_section⟩ := entries.replaceSections keys (same.symm ▸ listed) apart
  refine ⟨bodies, fun key known => no_section key known ?_⟩
  refine (all key known).imp_left fun inside => no_entry key known (fun cell mem => ?_) (.inr inside)
  obtain ⟨other, listed, rfl⟩ := List.mem_map.1 inside
  exact free cell mem other listed

end Work

/-- **A pass over what holds no key** leaves it as it is. -/
theorem pass_of_lacks {cells : List (String × String)} {names : List String} {work : Work}
    (gone : ∀ key ∈ cells.map (·.1) ++ names, work.Lacks key) :
    pass cells names none work.output work.bodies = ⟨work.output, work.bodies, false⟩ := by
  have kept : ∀ key ∈ cells.map (·.1) ++ names, ∀ value exempt,
      (⟨work.output, work.bodies, false⟩ : Work).replace key value exempt =
        ⟨work.output, work.bodies, false⟩ := fun key mem value exempt =>
    replace_of_absent (gone key mem).output (gone key mem).bodies
  rw [pass, replaceCells_of_none fun cell mem =>
      kept cell.1 (List.mem_append_left _ (List.mem_map_of_mem mem)),
    replaceSections_of_none fun key mem => kept key (List.mem_append_right _ mem)]
  rfl

/-- **If no key is left after the first pass,** that is what is settled on. -/
theorem settle_of_lacks {cells : List (String × String)} {names : List String} {text : String}
    {sections : Dict String}
    (gone : ∀ key ∈ cells.map (·.1) ++ names, (pass cells names none text sections).Lacks key)
    (more : Nat) :
    settle cells names none (more + 2) text sections = some (pass cells names none text sections).output := by
  rw [settle]
  split
  · rw [settle, pass_of_lacks gone]
    rfl
  · rfl

/-! ### Sections that lead nowhere in circles -/

/-- **What a key stands for** for one recipient: the entry of the table, or the section's text. -/
def meaning (table : Table) (sections : Dict String) (index : Nat) (key : String) : Option String :=
  match table.find? key with
  | some column => some (column[index]?.getD "")
  | none => sections.find? key

/-- **A section refers to another** if it holds its key, or the key of an entry that holds it. -/
def Refers (table : Table) (sections : Dict String) (index : Nat) (first second : String) : Prop :=
  second ∈ sections.keys ∧ ∃ body ∈ sections.pairs, body.1 = first ∧
    (Text.contains body.2 second = true ∨ ∃ column ∈ table.pairs,
      Text.contains body.2 column.1 = true ∧ Text.contains (column.2[index]?.getD "") second = true)

instance (table : Table) (sections : Dict String) (index : Nat) (first second : String) :
    Decidable (Refers table sections index first second) := by
  unfold Refers
  infer_instance

/-- **A text that can be unfolded** for all of `count` recipients: its keys can be told apart, no
entry holds a key of the table, and no section leads back to itself. -/
structure Unfoldable (text : String) (table : Table) (sections : Dict String) (count : Nat) : Prop where
  distinct_table : table.DistinctKeys
  distinct_sections : sections.DistinctKeys
  bound : table.pairs ≠ []
  least : 0 < count
  lengths : ∀ column ∈ table.pairs, column.2.length = count
  table_keys : ∀ key ∈ table.keys, isKey key = true
  section_keys : ∀ key ∈ sections.keys, isKey key = true
  disjoint : ∀ key ∈ table.keys, key ∉ sections.keys
  text : onlyInKeys text.toList = true
  entries : ∀ column ∈ table.pairs, ∀ entry ∈ column.2, onlyInKeys entry.toList = true
  bodies : ∀ body ∈ sections.pairs, onlyInKeys body.2.toList = true
  free : ∀ column ∈ table.pairs, ∀ entry ∈ column.2, ∀ key ∈ table.keys, Text.contains entry key = false
  acyclic : ∀ index < count, ∀ key, ¬ TransGen (Refers table sections index) key key

/-- Sections lead nowhere in circles if each refers only to such as have a smaller number. -/
theorem acyclic_of_rank {table : Table} {sections : Dict String} {index : Nat} (rank : String → Nat)
    (lower : ∀ first ∈ sections.keys, ∀ second ∈ sections.keys,
      Refers table sections index first second → rank second < rank first)
    (key : String) : ¬ TransGen (Refers table sections index) key key := by
  have step : ∀ {first second}, Refers table sections index first second → rank second < rank first := by
    intro first second refers
    obtain ⟨known, body, mem, rfl, -⟩ := id refers
    exact lower _ (List.mem_map_of_mem mem) _ known refers
  have falls : ∀ {second}, TransGen (Refers table sections index) key second → rank second < rank key := by
    intro second path
    induction path with
    | single refers => exact step refers
    | tail _ refers ih => exact Nat.lt_trans (step refers) ih
  exact fun circle => Nat.lt_irrefl _ (falls circle)

namespace Unfoldable

variable {text : String} {table : Table} {sections : Dict String} {count index : Nat}
  (h : Unfoldable text table sections count)

include h

theorem meaning_table {column : String × List String} (mem : column ∈ table.pairs) :
    meaning table sections index column.1 = some (column.2[index]?.getD "") := by
  rw [meaning, (Dict.find?_eq_some_iff h.distinct_table).2 mem]

theorem meaning_section {body : String × String} (mem : body ∈ sections.pairs) :
    meaning table sections index body.1 = some body.2 := by
  have elsewhere : table.find? body.1 = none := Dict.findIn_eq_none_iff.2 fun inside =>
    h.disjoint _ inside (Dict.mem_keys_iff.2 ⟨body.2, mem⟩)
  rw [meaning, elsewhere, (Dict.find?_eq_some_iff h.distinct_sections).2 mem]

omit h in
/-- A known key is one of the table or one of a section. -/
theorem known_cases {key value : String} (stands : meaning table sections index key = some value) :
    (∃ column ∈ table.pairs, column.1 = key ∧ value = column.2[index]?.getD "") ∨
      (key, value) ∈ sections.pairs := by
  rw [meaning] at stands
  split at stands
  · rename_i column found
    exact .inl ⟨(key, column), Dict.mem_pairs_of_find? found, rfl, (Option.some.inj stands).symm⟩
  · exact .inr (Dict.mem_pairs_of_find? stands)

theorem isKey_of_known (key : String) (known : meaning table sections index key ≠ none) :
    isKey key = true := by
  obtain ⟨value, stands⟩ := Option.ne_none_iff_exists'.1 known
  rcases known_cases stands with ⟨column, mem, rfl, -⟩ | mem
  · exact h.table_keys _ (List.mem_map_of_mem mem)
  · exact h.section_keys _ (Dict.mem_keys_iff.2 ⟨value, mem⟩)

/-- The entry of a recipient is one of the column. -/
theorem entry_mem (less : index < count) {column : String × List String} (mem : column ∈ table.pairs) :
    column.2[index]?.getD "" ∈ column.2 := by
  have inside : index < column.2.length := h.lengths column mem ▸ less
  rw [List.getElem?_eq_getElem inside, Option.getD_some]
  exact List.getElem_mem inside

/-- **Where a section leads** through keys of all kinds: to sections that it refers to, directly or
by way of others, and to keys of the table that stand in it or in one of these. -/
theorem reaches (less : index < count) {first second : String} (start : first ∈ sections.keys)
    (path : TransGen (Points (meaning table sections index)) first second) :
    (second ∈ sections.keys → TransGen (Refers table sections index) first second) ∧
      (second ∈ table.keys → ∃ body ∈ sections.pairs, Text.contains body.2 second = true ∧
        (body.1 = first ∨ TransGen (Refers table sections index) first body.1)) := by
  induction path with
  | single step =>
    obtain ⟨value, stands, -, inside⟩ := step
    have mem : (first, value) ∈ sections.pairs := by
      refine (known_cases stands).resolve_left ?_
      rintro ⟨column, mem, rfl, -⟩
      exact h.disjoint _ (List.mem_map_of_mem mem) start
    exact ⟨fun known => .single ⟨known, _, mem, rfl, .inl inside⟩, fun _ => ⟨_, mem, inside, .inl rfl⟩⟩
  | tail path step ih =>
    obtain ⟨value, stands, -, inside⟩ := step
    rcases known_cases stands with ⟨column, mem, rfl, rfl⟩ | mem
    -- an entry holds no key of the table, so it leads on to a section only
    · refine ⟨fun known => ?_, fun known => ?_⟩
      · obtain ⟨body, listed, holds, place⟩ := ih.2 (List.mem_map_of_mem mem)
        have refers : Refers table sections index body.1 _ :=
          ⟨known, body, listed, rfl, .inr ⟨column, mem, holds, inside⟩⟩
        rcases place with same | path
        · exact .single (same ▸ refers)
        · exact path.tail refers
      · exact absurd inside (Bool.eq_false_iff.1 (h.free column mem _ (h.entry_mem less mem) _ known))
    · have here := ih.1 (Dict.mem_keys_iff.2 ⟨value, mem⟩)
      exact ⟨fun known => here.tail ⟨known, _, mem, rfl, .inl inside⟩, fun _ => ⟨_, mem, inside, .inr here⟩⟩

/-- No section leads back to itself. -/
theorem apart (less : index < count) {key : String} (start : key ∈ sections.keys) :
    ¬ TransGen (Points (meaning table sections index)) key key := fun circle =>
  h.acyclic index less key ((h.reaches less start circle).1 start)

omit h in
/-- The entries of a recipient are those of the table. -/
theorem of_mem_entries {cell : String × String}
    (mem : cell ∈ entriesOf (longestFirst table.pairs) index) :
    ∃ column ∈ table.pairs, column.1 = cell.1 ∧ column.2[index]?.getD "" = cell.2 := by
  obtain ⟨column, listed, rfl⟩ := List.mem_map.1 mem
  exact ⟨column, (mem_longestFirst.1 listed).1, rfl, rfl⟩

/-- All known keys are gone through. -/
theorem mem_of_known {key : String} (known : meaning table sections index key ≠ none) :
    key ∈ (entriesOf (longestFirst table.pairs) index).map (·.1) ∨
      key ∈ (longestFirst sections.pairs).map (·.1) := by
  have nonempty := ne_empty_of_isKey (h.isKey_of_known key known)
  obtain ⟨value, stands⟩ := Option.ne_none_iff_exists'.1 known
  refine (known_cases stands).imp ?_ fun mem =>
    List.mem_map.2 ⟨(key, value), mem_longestFirst.2 ⟨mem, nonempty⟩, rfl⟩
  rintro ⟨column, mem, rfl, -⟩
  rw [entriesOf, List.map_map]
  exact List.mem_map.2 ⟨column, mem_longestFirst.2 ⟨mem, nonempty⟩, rfl⟩

/-- **The text of a recipient** settles on what the text unfolds to. -/
theorem settle (less : index < count) :
    ∃ output, Outline.settle (entriesOf (longestFirst table.pairs) index)
        ((longestFirst sections.pairs).map (·.1)) none (sections.size + 2) text sections = some output ∧
      Unfolds (meaning table sections index) text.toList output.toList := by
  have start : Underway (meaning table sections index) text ⟨text, sections, false⟩ :=
    { output := .refl (marked_of_onlyInKeys h.text)
      bodies := fun body mem => .start (h.meaning_section mem) (marked_of_onlyInKeys (h.bodies body mem)) }
  have stems : ∀ cell ∈ entriesOf (longestFirst table.pairs) index,
      Stems (meaning table sections index) cell.1 cell.2 := by
    intro cell mem
    obtain ⟨column, listed, key, entry⟩ := of_mem_entries mem
    rw [← key, ← entry]
    exact .start (h.meaning_table listed)
      (marked_of_onlyInKeys (h.entries column listed _ (h.entry_mem less listed)))
  have free : ∀ cell ∈ entriesOf (longestFirst table.pairs) index,
      ∀ other ∈ entriesOf (longestFirst table.pairs) index, Text.contains cell.2 other.1 = false := by
    intro cell mem other mem'
    obtain ⟨column, listed, -, entry⟩ := of_mem_entries mem
    obtain ⟨column', listed', key, -⟩ := of_mem_entries mem'
    rw [← entry, ← key]
    exact h.free column listed _ (h.entry_mem less listed) _ (List.mem_map_of_mem listed')
  have listed : ∀ name ∈ (longestFirst sections.pairs).map (·.1), name ∈ sections.keys := by
    intro name mem
    obtain ⟨body, inside, rfl⟩ := List.mem_map.1 mem
    exact List.mem_map_of_mem (mem_longestFirst.1 inside).1
  obtain ⟨underway, gone⟩ := start.pass h.isKey_of_known stems free listed
    (fun name mem => h.apart less (listed name mem)) fun key => h.mem_of_known
  refine ⟨_, settle_of_lacks (fun key mem => gone key ?_) _, underway.output.back _ ?_⟩
  · rcases List.mem_append.1 mem with entry | name
    · obtain ⟨cell, inside, rfl⟩ := List.mem_map.1 entry
      exact (stems cell inside).known
    · obtain ⟨body, inside⟩ := Dict.mem_keys_iff.1 (listed key name)
      rw [h.meaning_section inside]
      exact Option.some_ne_none body
  · exact unfolds_self underway.output.marked fun key _ known => (gone key known).output

end Unfoldable

/-- **A text is filled in with what it unfolds to,** however deep sections nest and in whatever
order keys come. If all keys can be told apart, those of the table are none of the sections', no
entry holds a key of the table and, for every recipient, no section leads back to itself, then
there is a text for each recipient. It is the one text that the text unfolds to: each key of the
table has given way to what the recipient's entry unfolds to, each key of a section to what the
section unfolds to, and unknown keys and all other text are as they were. -/
theorem fillText_unfolds {text : String} {table : Table} {sections : Dict String} {count : Nat}
    (h : Unfoldable text table sections count) :
    ∃ texts, fillText text table sections = .ok texts ∧ texts.length = count ∧
      ∀ index (less : index < texts.length) (result : List Char),
        Unfolds (meaning table sections index) text.toList result ↔ result = texts[index].toList := by
  have nonempty : ∀ body ∈ sections.pairs, body.1.isEmpty = false := fun body mem =>
    Bool.eq_false_iff.2 fun empty => ne_empty_of_isKey
      (h.section_keys _ (List.mem_map_of_mem mem)) (String.isEmpty_iff.1 empty)
  have each : ∀ index, ∃ output, index < count → Outline.settle (entriesOf (longestFirst table.pairs) index)
      ((longestFirst sections.pairs).map (·.1)) none (sections.size + 2) text sections = some output ∧
        Unfolds (meaning table sections index) text.toList output.toList := by
    intro index
    by_cases less : index < count
    · obtain ⟨output, found⟩ := h.settle less
      exact ⟨output, fun _ => found⟩
    · exact ⟨"", fun inside => absurd inside less⟩
  choose texts settled using each
  refine ⟨(List.range count).map texts, ?_, by rw [List.length_map, List.length_range], ?_⟩
  · obtain ⟨key, column, rest, pairs⟩ : ∃ key column rest, table.pairs = (key, column) :: rest := by
      obtain ⟨⟨key, column⟩, rest, pairs⟩ := List.exists_cons_of_ne_nil h.bound
      exact ⟨key, column, rest, pairs⟩
    have length := h.lengths (key, column) (pairs ▸ List.mem_cons_self)
    have filled : column.isEmpty = false :=
      List.isEmpty_eq_false_iff.2 (List.length_pos_iff.1 (length ▸ h.least))
    rw [fillText, pairs]
    dsimp only
    rw [filled, if_neg Bool.false_ne_true, length, fill, checkColumns_ok h.lengths]
    exact fillEach_ok nonempty _ fun index mem => (settled index (List.mem_range.1 mem)).1
  · intro index less result
    rw [List.length_map, List.length_range] at less
    rw [List.getElem_map, List.getElem_range]
    have unfolds := (settled index less).2
    exact ⟨fun other => other.unique unfolds, fun same => same ▸ unfolds⟩

/-- A section in a section, in which the entry of one recipient shows a third one. The key of the
inner section is longer and goes first. A key that stands for nothing is left in place. -/
theorem fillText_unfolds_nested :
    let text := "a\uE0003\uE001b"
    let table : Table := ⟨[("\uE0001\uE001", ["\uE0005\uE001", ""]), ("\uE0002\uE001", ["x", "y"])]⟩
    let sections : Dict String := ⟨[("\uE00010\uE001", "[\uE0001\uE001]"),
      ("\uE0003\uE001", "<\uE00010\uE001\uE0009\uE001>"), ("\uE0005\uE001", "-\uE0002\uE001-")]⟩
    Unfoldable text table sections 2 ∧
      fillText text table sections = .ok ["a<[-x-]\uE0009\uE001>b", "a<[]\uE0009\uE001>b"] ∧
      ∀ result, Unfolds (meaning table sections 0) text.toList result ↔
        result = "a<[-x-]\uE0009\uE001>b".toList := by
  intro text table sections
  let rank (key : String) : Nat := ["\uE0005\uE001", "\uE00010\uE001", "\uE0003\uE001"].idxOf key
  have lower : ∀ index < 2, ∀ first ∈ sections.keys, ∀ second ∈ sections.keys,
      Refers table sections index first second → rank second < rank first := by
    decide +kernel
  have unfoldable : Unfoldable text table sections 2 :=
    { distinct_table := by unfold Dict.DistinctKeys; decide +kernel
      distinct_sections := by unfold Dict.DistinctKeys; decide +kernel
      bound := List.cons_ne_nil _ _
      least := by decide
      lengths := by decide
      table_keys := by decide +kernel
      section_keys := by decide +kernel
      disjoint := by decide +kernel
      text := by decide +kernel
      entries := by decide +kernel
      bodies := by decide +kernel
      free := by decide +kernel
      acyclic := fun index less => acyclic_of_rank rank (lower index less) }
  have evaluated : fillText text table sections =
      .ok ["a<[-x-]\uE0009\uE001>b", "a<[]\uE0009\uE001>b"] := by
    decide +kernel
  obtain ⟨texts, filled, -, each⟩ := fillText_unfolds unfoldable
  obtain rfl := Except.ok.inj (filled.symm.trans evaluated)
  exact ⟨unfoldable, evaluated, each 0 (by decide)⟩

end Outline
end MailMerge
