/-
# Passes over spellings

Where keys are told apart, a pass is a substitution: every key of the table gives
way to the recipient's entry, then every key of a section to the section, and the
text ends at the mark where all output stops. If entries hold no keys of the table,
and sections no keys at all but that mark, there is nothing left for a second pass.
-/

import Mathlib.Data.List.TakeWhile
import MailMerge.Outline.Filling
import MailMerge.Proofs.Outline.Spelling

namespace MailMerge
namespace Outline

/-- The text of a spelling, as a text. -/
def spelled (format : KeyFormat) (atoms : List Atom) : String := String.ofList (spell format atoms)

/-- **Putting values in the place of keys,** all at once. -/
def fillAtoms (values : List (Nat × List Atom)) (atoms : List Atom) : List Atom :=
  atoms.flatMap fun
    | .plain text => [.plain text]
    | .key number => (values.lookup number).getD [.key number]

/-- The atoms up to the key at which all output stops. -/
def cutAtoms (halt : Option Nat) (atoms : List Atom) : List Atom :=
  match halt with
  | none => atoms
  | some number => atoms.takeWhile fun atom => atom != .key number

/-! ### Filling in atoms -/

section Fill

variable {values : List (Nat × List Atom)}

theorem fillAtoms_append (values : List (Nat × List Atom)) (first second : List Atom) :
    fillAtoms values (first ++ second) = fillAtoms values first ++ fillAtoms values second :=
  List.flatMap_append

theorem fillAtoms_atom (values : List (Nat × List Atom)) (atom : Atom) (rest : List Atom) :
    fillAtoms values (atom :: rest) = fillAtoms values [atom] ++ fillAtoms values rest :=
  fillAtoms_append values [atom] rest

theorem fillAtoms_key (values : List (Nat × List Atom)) (number : Nat) :
    fillAtoms values [.key number] = (values.lookup number).getD [.key number] := List.append_nil _

/-- What is looked up is there. -/
theorem mem_of_lookup {α : Type} {pairs : List (Nat × α)} {number : Nat} {value : α}
    (h : pairs.lookup number = some value) : (number, value) ∈ pairs := by
  obtain ⟨before, after, rfl, -⟩ := List.lookup_eq_some_iff.1 h
  simp

/-- What is there once is looked up. -/
theorem lookup_of_mem {α : Type} {pairs : List (Nat × α)} (distinct : (pairs.map (·.1)).Nodup)
    {number : Nat} {value : α} (h : (number, value) ∈ pairs) : pairs.lookup number = some value := by
  induction pairs with
  | nil => exact (List.not_mem_nil h).elim
  | cons pair rest ih =>
    obtain ⟨other, found⟩ := pair
    obtain ⟨new, distinct⟩ := List.nodup_cons.1 distinct
    rw [List.lookup_cons]
    rcases List.mem_cons.1 h with same | mem
    · obtain ⟨rfl, rfl⟩ := Prod.mk.inj same
      simp
    · have different : number ≠ other := by
        rintro rfl
        exact new (List.mem_map.2 ⟨_, mem, rfl⟩)
      rw [beq_false_of_ne different]
      exact ih distinct mem

theorem lookup_of_not_mem {α : Type} {pairs : List (Nat × α)} {number : Nat}
    (h : number ∉ pairs.map (·.1)) : pairs.lookup number = none := by
  refine List.lookup_eq_none_iff.2 fun pair mem => bne_iff_ne.2 fun same => h ?_
  exact List.mem_map.2 ⟨pair, mem, same.symm⟩

/-- Atoms without the keys are left as they are. -/
theorem fillAtoms_of_none {atoms : List Atom}
    (none : ∀ number, .key number ∈ atoms → number ∉ values.map (·.1)) : fillAtoms values atoms = atoms := by
  induction atoms with
  | nil => rfl
  | cons atom rest ih =>
    have others := ih fun number mem => none number (List.mem_cons_of_mem _ mem)
    rw [fillAtoms_atom, others]
    cases atom with
    | plain text => rfl
    | key number =>
      simp [fillAtoms, lookup_of_not_mem (none number List.mem_cons_self)]

/-- **Substituting one key after the other** is filling in all at once, if no value
holds one of the keys. -/
theorem fillAtoms_cons {number : Nat} {value : List Atom}
    (none : ∀ other, .key other ∈ value → other ∉ values.map (·.1)) (atoms : List Atom) :
    fillAtoms ((number, value) :: values) atoms = fillAtoms values (substitute number value atoms) := by
  induction atoms with
  | nil => rfl
  | cons atom rest ih =>
    rw [substitute_cons, fillAtoms_append, ← ih, fillAtoms_atom]
    congr 1
    cases atom with
    | plain text => rfl
    | key other =>
      by_cases same : other = number
      · subst same
        rw [if_pos rfl, fillAtoms_of_none none]
        simp [fillAtoms]
      · have different : Atom.key other ≠ Atom.key number := fun eq => same (Atom.key.inj eq)
        rw [if_neg different]
        simp [fillAtoms, List.lookup_cons, beq_false_of_ne same]

/-- **The keys that are left** are those of the values and those that have no value. -/
theorem key_mem_fillAtoms {number : Nat} {atoms : List Atom} (h : .key number ∈ fillAtoms values atoms) :
    (∃ other value, (other, value) ∈ values ∧ .key number ∈ value) ∨
      (.key number ∈ atoms ∧ number ∉ values.map (·.1)) := by
  obtain ⟨atom, mem, found⟩ := List.mem_flatMap.1 h
  cases atom with
  | plain text => simp at found
  | key other =>
    dsimp only at found
    cases entry : values.lookup other with
    | some value =>
      rw [entry] at found
      exact .inl ⟨other, value, mem_of_lookup entry, found⟩
    | none =>
      rw [entry] at found
      obtain rfl := Atom.key.inj (List.mem_singleton.1 found)
      refine .inr ⟨mem, fun absent => ?_⟩
      obtain ⟨pair, hpair, same⟩ := List.mem_map.1 absent
      have := List.lookup_eq_none_iff.1 entry pair hpair
      simp [same] at this

theorem sound_fillAtoms {mark : Char} {atoms : List Atom} (sound : ∀ atom ∈ atoms, atom.Sound mark)
    (values_sound : ∀ pair ∈ values, ∀ atom ∈ pair.2, atom.Sound mark) :
    ∀ atom ∈ fillAtoms values atoms, atom.Sound mark := by
  intro atom h
  obtain ⟨source, mem, found⟩ := List.mem_flatMap.1 h
  cases source with
  | plain text =>
    obtain rfl := List.mem_singleton.1 found
    exact sound _ mem
  | key other =>
    dsimp only at found
    cases entry : values.lookup other with
    | some value =>
      rw [entry] at found
      exact values_sound _ (mem_of_lookup entry) _ found
    | none =>
      rw [entry] at found
      obtain rfl := List.mem_singleton.1 found
      exact sound _ mem

end Fill

/-! ### Passes -/

section Passes

variable {format : KeyFormat} {mark : Char}

/-- **Work that spells atoms:** its text and, section by section, its bodies. -/
structure Work.Spells (format : KeyFormat) (work : Work) (output : List Atom)
    (bodies : List (Nat × List Atom)) : Prop where
  output : work.output = spelled format output
  bodies : work.bodies.pairs = bodies.map fun body => (format.key body.1, spelled format body.2)

/-- All atoms of bodies are sound. -/
def BodiesSound (mark : Char) (bodies : List (Nat × List Atom)) : Prop :=
  ∀ body ∈ bodies, ∀ atom ∈ body.2, atom.Sound mark

section Replace

variable (h : format.SeparableBy mark) {number : Nat} (pos : 1 ≤ number) (value : List Atom)

include h pos

theorem contains_spelled {atoms : List Atom} (sound : ∀ atom ∈ atoms, atom.Sound mark) :
    Text.contains (spelled format atoms) (format.key number) = true ↔ .key number ∈ atoms := by
  rw [Text.contains, spelled, String.toList_ofList]
  exact occursIn_spell h pos sound

/-- A key is replaced in the text of a spelling. -/
theorem replaceKey_spelled {atoms : List Atom} (sound : ∀ atom ∈ atoms, atom.Sound mark) :
    (replaceKey (format.key number) (spelled format value) (spelled format atoms)).1 =
      spelled format (substitute number value atoms) := by
  have replaced := replaceFrom_spell h pos value sound
  rw [replaceKey]
  split
  · rw [Text.replaceAll, spelled, String.toList_ofList, spelled, String.toList_ofList, replaced]
    rfl
  · rename_i absent
    have none : Text.occursIn (format.key number).toList (spell format atoms) = false := by
      rw [Text.contains, spelled, String.toList_ofList] at absent
      exact Bool.not_eq_true _ ▸ absent
    rw [spelled, spelled, ← replaced, Text.replaceFrom_of_not_occursIn none]

/-- **Replacing a key everywhere** substitutes it in the text and in the sections. -/
theorem Work.Spells.replace {work : Work} {output : List Atom} {bodies : List (Nat × List Atom)}
    (spells : work.Spells format output bodies) (output_sound : ∀ atom ∈ output, atom.Sound mark)
    (sound : BodiesSound mark bodies) :
    (work.replace (format.key number) (spelled format value) none).Spells format
      (substitute number value output)
      (bodies.map fun body => (body.1, substitute number value body.2)) := by
  obtain ⟨text, ⟨pairs⟩, changed⟩ := work
  obtain ⟨rfl, hbodies⟩ := spells
  dsimp only at hbodies
  subst hbodies
  refine ⟨?_, ?_⟩
  · exact replaceKey_spelled h pos value output_sound
  · simp only [Work.replace]
    induction bodies with
    | nil => rfl
    | cons body rest ih =>
      obtain ⟨own, others⟩ := List.forall_mem_cons.1 sound
      simp only [List.map_cons, replaceInBodies, reduceCtorEq, if_false]
      rw [ih others, replaceKey_spelled h pos value own]

/-- **Replacing a key in the text alone,** if it is in no section. -/
theorem Work.Spells.replaceOutside {work : Work} {output : List Atom}
    {bodies : List (Nat × List Atom)} (spells : work.Spells format output bodies)
    (output_sound : ∀ atom ∈ output, atom.Sound mark) (sound : BodiesSound mark bodies)
    (none : ∀ body ∈ bodies, .key number ∉ body.2) (exempt : Option String) :
    (work.replace (format.key number) (spelled format value) exempt).Spells format
      (substitute number value output) bodies := by
  obtain ⟨text, ⟨pairs⟩, changed⟩ := work
  obtain ⟨rfl, hbodies⟩ := spells
  dsimp only at hbodies
  subst hbodies
  refine ⟨?_, ?_⟩
  · exact replaceKey_spelled h pos value output_sound
  · simp only [Work.replace]
    induction bodies with
    | nil => rfl
    | cons body rest ih =>
      obtain ⟨own, others⟩ := List.forall_mem_cons.1 sound
      obtain ⟨absent, absentRest⟩ := List.forall_mem_cons.1 none
      have unchanged : replaceKey (format.key number) (spelled format value)
          (spelled format body.2) = (spelled format body.2, false) := by
        rw [replaceKey, if_neg fun found => absent ((contains_spelled h pos own).1 found)]
      simp only [List.map_cons, replaceInBodies]
      split
      · rw [ih others absentRest]
      · rw [ih others absentRest, unchanged]

end Replace

/-- Nothing is replaced where a key does not occur. -/
theorem replace_of_absent {work : Work} {key value : String} {exempt : Option String}
    (output : Text.contains work.output key = false)
    (bodies : ∀ body ∈ work.bodies.pairs, Text.contains body.2 key = false) :
    work.replace key value exempt = work := by
  obtain ⟨text, ⟨pairs⟩, changed⟩ := work
  have same : ∀ pairs : List (String × String), (∀ body ∈ pairs, Text.contains body.2 key = false) →
      replaceInBodies key value exempt pairs = (pairs, false) := by
    intro pairs absent
    induction pairs with
    | nil => rfl
    | cons body rest ih =>
      obtain ⟨own, others⟩ := List.forall_mem_cons.1 absent
      simp [replaceInBodies, ih others, replaceKey, own]
  simp only at output bodies
  simp [Work.replace, replaceKey, output, same pairs bodies]

theorem sound_substitute {number : Nat} {value atoms : List Atom}
    (sound : ∀ atom ∈ atoms, atom.Sound mark) (value_sound : ∀ atom ∈ value, atom.Sound mark) :
    ∀ atom ∈ substitute number value atoms, atom.Sound mark := by
  intro atom mem
  obtain ⟨source, hsource, found⟩ := List.mem_flatMap.1 mem
  split at found
  · exact value_sound atom found
  · obtain rfl := List.mem_singleton.1 found
    exact sound _ hsource

/-- **Entries that can be put in the place of keys:** sound atoms under numbers from
one on, and none of the keys among them. -/
structure Entries (mark : Char) (values : List (Nat × List Atom)) : Prop where
  pos : ∀ pair ∈ values, 1 ≤ pair.1
  sound : ∀ pair ∈ values, ∀ atom ∈ pair.2, atom.Sound mark
  closed : ∀ pair ∈ values, ∀ number, .key number ∈ pair.2 → number ∉ values.map (·.1)

/-- Fewer entries can be put in the place of keys too. -/
theorem Entries.tail {pair : Nat × List Atom} {values : List (Nat × List Atom)}
    (entries : Entries mark (pair :: values)) : Entries mark values where
  pos other mem := entries.pos other (List.mem_cons_of_mem _ mem)
  sound other mem := entries.sound other (List.mem_cons_of_mem _ mem)
  closed other mem number found absent :=
    entries.closed other (List.mem_cons_of_mem _ mem) number found (List.mem_cons_of_mem _ absent)

variable (h : format.SeparableBy mark)

include h

/-- **Replacing the keys of the table** fills in the text and the sections. -/
theorem Work.Spells.replaceCells {values : List (Nat × List Atom)} (entries : Entries mark values)
    {work : Work} {output : List Atom} {bodies : List (Nat × List Atom)}
    (spells : work.Spells format output bodies) (output_sound : ∀ atom ∈ output, atom.Sound mark)
    (sound : BodiesSound mark bodies) :
    (work.replaceCells (values.map fun pair => (format.key pair.1, spelled format pair.2))).Spells
      format (fillAtoms values output) (bodies.map fun body => (body.1, fillAtoms values body.2)) := by
  induction values generalizing work output bodies with
  | nil =>
    have none : ∀ atoms, fillAtoms [] atoms = atoms := fun atoms =>
      fillAtoms_of_none fun _ _ absent => (List.not_mem_nil absent).elim
    simpa [Work.replaceCells, none] using spells
  | cons pair rest ih =>
    have pos := entries.pos pair List.mem_cons_self
    have value_sound := entries.sound pair List.mem_cons_self
    have closed : ∀ other, .key other ∈ pair.2 → other ∉ rest.map (·.1) := fun other found absent =>
      entries.closed pair List.mem_cons_self other found (List.mem_cons_of_mem _ absent)
    have bodies_sound : BodiesSound mark
        (bodies.map fun body => (body.1, substitute pair.1 pair.2 body.2)) := by
      intro body mem
      obtain ⟨source, hsource, rfl⟩ := List.mem_map.1 mem
      exact sound_substitute (sound source hsource) value_sound
    have first := spells.replace h pos pair.2 output_sound sound
    have later := ih entries.tail first (sound_substitute output_sound value_sound) bodies_sound
    have filled : (bodies.map fun body => (body.1, fillAtoms (pair :: rest) body.2)) =
        (bodies.map fun body => (body.1, substitute pair.1 pair.2 body.2)).map
          fun body => (body.1, fillAtoms rest body.2) := by
      rw [List.map_map]
      exact List.map_congr_left fun body _ => Prod.ext rfl (fillAtoms_cons closed body.2)
    rw [filled, fillAtoms_cons closed]
    exact later

omit h in
/-- The section with a key is found among those that work has. -/
theorem Work.Spells.find?_bodies {work : Work} {output : List Atom} {bodies : List (Nat × List Atom)}
    (spells : work.Spells format output bodies) (number : Nat) :
    (work.bodies.find? (format.key number)).getD "" =
      spelled format ((bodies.lookup number).getD []) := by
  rw [Dict.find?, spells.bodies]
  clear spells
  induction bodies with
  | nil => rfl
  | cons body rest ih =>
    obtain ⟨other, atoms⟩ := body
    simp only [List.map_cons, Dict.findIn, List.lookup_cons]
    by_cases same : number = other
    · subst same
      simp
    · have different : format.key other ≠ format.key number := fun eq =>
        same (KeyFormat.key_injective eq).symm
      rw [if_neg different, ih, beq_false_of_ne same]

/-- The entries that sections are for their keys. -/
def sectionValues (keys : List Nat) (bodies : List (Nat × List Atom)) : List (Nat × List Atom) :=
  keys.map fun number => (number, (bodies.lookup number).getD [])

omit h in
theorem sound_lookup {bodies : List (Nat × List Atom)} (sound : BodiesSound mark bodies) (number : Nat) :
    ∀ atom ∈ (bodies.lookup number).getD [], atom.Sound mark := by
  intro atom mem
  cases entry : bodies.lookup number with
  | none => simp [entry] at mem
  | some body =>
    rw [entry] at mem
    exact sound _ (mem_of_lookup entry) atom mem

/-- **Replacing the keys of the sections** puts the sections into the text, if no
section holds the key of one. -/
theorem Work.Spells.replaceSections {keys : List Nat} (pos : ∀ number ∈ keys, 1 ≤ number)
    {work : Work} {output : List Atom} {bodies : List (Nat × List Atom)}
    (spells : work.Spells format output bodies) (output_sound : ∀ atom ∈ output, atom.Sound mark)
    (sound : BodiesSound mark bodies)
    (flat : ∀ body ∈ bodies, ∀ number ∈ keys, .key number ∉ body.2) :
    (work.replaceSections (keys.map format.key)).Spells format
      (fillAtoms (sectionValues keys bodies) output) bodies := by
  induction keys generalizing work output with
  | nil =>
    have none : fillAtoms (sectionValues [] bodies) output = output :=
      fillAtoms_of_none fun _ _ absent => (List.not_mem_nil absent).elim
    rw [none]
    exact spells
  | cons number rest ih =>
    have value_sound := sound_lookup sound number
    have first := spells.replaceOutside h (pos number List.mem_cons_self)
      ((bodies.lookup number).getD []) output_sound sound
      (fun body mem => flat body mem number List.mem_cons_self) (some (format.key number))
    rw [← spells.find?_bodies] at first
    have later := ih (fun other mem => pos other (List.mem_cons_of_mem _ mem)) first
      (sound_substitute output_sound value_sound)
      fun body mem other hother => flat body mem other (List.mem_cons_of_mem _ hother)
    have closed : ∀ other, .key other ∈ (bodies.lookup number).getD [] →
        other ∉ (sectionValues rest bodies).map (·.1) := by
      intro other found absent
      have hother : other ∈ rest := by simpa [sectionValues] using absent
      cases entry : bodies.lookup number with
      | none => simp [entry] at found
      | some body =>
        rw [entry] at found
        exact flat _ (mem_of_lookup entry) other (List.mem_cons_of_mem _ hother) found
    have filled : fillAtoms (sectionValues (number :: rest) bodies) output =
        fillAtoms (sectionValues rest bodies)
          (substitute number ((bodies.lookup number).getD []) output) := fillAtoms_cons closed output
    rw [filled]
    exact later

/-- **Cutting off** drops the atoms from the key on at which all output stops. -/
theorem Work.Spells.cutAt {halt : Option Nat} (pos : ∀ number, halt = some number → 1 ≤ number)
    {work : Work} {output : List Atom} {bodies : List (Nat × List Atom)}
    (spells : work.Spells format output bodies) (output_sound : ∀ atom ∈ output, atom.Sound mark) :
    (work.cutAt (halt.map format.key)).Spells format (cutAtoms halt output) bodies := by
  cases halt with
  | none => exact spells
  | some number =>
    have before := before?_spell h (pos number rfl) output_sound
    have text : Text.beforeFirst? work.output (format.key number) =
        (Text.before? (format.key number).toList (spell format output)).map String.ofList := by
      rw [spells.output, Text.beforeFirst?, spelled, String.toList_ofList]
    simp only [Option.map_some, Work.cutAt, cutAtoms, text, before]
    by_cases mem : Atom.key number ∈ output
    · rw [if_pos mem]
      exact ⟨rfl, spells.bodies⟩
    · have all : output.takeWhile (fun atom => atom != .key number) = output :=
        List.takeWhile_eq_self_iff.2 fun atom found => bne_iff_ne.2 fun same => mem (same ▸ found)
      rw [if_neg mem, all]
      exact spells

omit h in
theorem mem_cutAtoms {halt : Option Nat} {atoms : List Atom} {atom : Atom}
    (mem : atom ∈ cutAtoms halt atoms) : atom ∈ atoms := by
  cases halt with
  | none => exact mem
  | some number => exact List.takeWhile_subset _ mem

omit h in
theorem not_mem_cutAtoms {number : Nat} {atoms : List Atom} :
    .key number ∉ cutAtoms (some number) atoms := by
  intro mem
  have := List.mem_takeWhile_imp mem
  simp at this

omit h in
/-- Nothing happens if no key of the table is replaced. -/
theorem replaceCells_of_none {work : Work} {cells : List (String × String)}
    (none : ∀ cell ∈ cells, ∀ value exempt, work.replace cell.1 value exempt = work) :
    work.replaceCells cells = work := by
  induction cells with
  | nil => rfl
  | cons cell rest ih =>
    obtain ⟨own, others⟩ := List.forall_mem_cons.1 none
    rw [Work.replaceCells, List.foldl_cons, own]
    exact ih others

omit h in
/-- Nothing happens if no key of a section is replaced. -/
theorem replaceSections_of_none {work : Work} {keys : List String}
    (none : ∀ key ∈ keys, ∀ value exempt, work.replace key value exempt = work) :
    work.replaceSections keys = work := by
  induction keys with
  | nil => rfl
  | cons key rest ih =>
    obtain ⟨own, others⟩ := List.forall_mem_cons.1 none
    rw [Work.replaceSections, List.foldl_cons, own]
    exact ih others

/-- **Work with nothing left to do:** no key of the table or of a section is in the
text or in a section, and the text does not hold the key at which output stops. -/
structure Finished (numbers : List Nat) (halt : Option Nat) (output : List Atom)
    (bodies : List (Nat × List Atom)) : Prop where
  text_done : ∀ number ∈ numbers, .key number ∉ output
  sections_done : ∀ body ∈ bodies, ∀ number ∈ numbers, .key number ∉ body.2
  halt_done : ∀ number, halt = some number → .key number ∉ output

omit h in
/-- No key of an entry is left after filling in. -/
theorem key_not_mem_fillAtoms {values : List (Nat × List Atom)}
    (closed : ∀ pair ∈ values, ∀ number, .key number ∈ pair.2 → number ∉ values.map (·.1))
    {number : Nat} (mem : number ∈ values.map (·.1)) (atoms : List Atom) :
    .key number ∉ fillAtoms values atoms := by
  intro found
  rcases key_mem_fillAtoms found with ⟨other, value, hvalue, inside⟩ | ⟨-, absent⟩
  · exact closed _ hvalue number inside mem
  · exact absent mem

omit h in
/-- **Work is finished once everything has been filled in.** -/
theorem finished_of_fill {values : List (Nat × List Atom)}
    (closed : ∀ pair ∈ values, ∀ number, .key number ∈ pair.2 → number ∉ values.map (·.1))
    {keys : List Nat} {bodies : List (Nat × List Atom)}
    (flat : ∀ body ∈ bodies.map (fun body => (body.1, fillAtoms values body.2)),
      ∀ number ∈ keys, .key number ∉ body.2) (output : List Atom) (halt : Option Nat) :
    Finished (values.map (·.1) ++ keys) halt
      (cutAtoms halt
        (fillAtoms (sectionValues keys (bodies.map fun body => (body.1, fillAtoms values body.2)))
          (fillAtoms values output)))
      (bodies.map fun body => (body.1, fillAtoms values body.2)) := by
  have sections_done : ∀ body ∈ bodies.map (fun body => (body.1, fillAtoms values body.2)),
      ∀ number ∈ values.map (·.1) ++ keys, .key number ∉ body.2 := by
    intro body mem number hnumber
    rcases List.mem_append.1 hnumber with hnumber | hnumber
    · obtain ⟨source, -, rfl⟩ := List.mem_map.1 mem
      exact key_not_mem_fillAtoms closed hnumber source.2
    · exact flat body mem number hnumber
  refine ⟨fun number hnumber found => ?_, sections_done, fun number same => same ▸ not_mem_cutAtoms⟩
  rcases key_mem_fillAtoms (mem_cutAtoms found) with ⟨other, value, hvalue, inside⟩ | ⟨left, absent⟩
  · obtain ⟨source, -, same⟩ := List.mem_map.1 hvalue
    obtain ⟨rfl, rfl⟩ := Prod.mk.inj same
    cases entry : (bodies.map fun body => (body.1, fillAtoms values body.2)).lookup source with
    | none => simp [entry] at inside
    | some body =>
      rw [entry] at inside
      exact sections_done _ (mem_of_lookup entry) number hnumber inside
  · rcases List.mem_append.1 hnumber with hnumber | hnumber
    · exact key_not_mem_fillAtoms closed hnumber output left
    · refine absent ?_
      rw [sectionValues, List.map_map]
      exact List.mem_map.2 ⟨number, hnumber, rfl⟩

/-- **A pass over finished work changes nothing.** -/
theorem Work.Spells.pass_of_finished {work : Work} {output : List Atom}
    {bodies : List (Nat × List Atom)} (spells : work.Spells format output bodies)
    (output_sound : ∀ atom ∈ output, atom.Sound mark) (sound : BodiesSound mark bodies)
    {values : List (Nat × List Atom)} {keys : List Nat} {halt : Option Nat}
    (pos : ∀ number ∈ values.map (·.1) ++ keys, 1 ≤ number)
    (haltPos : ∀ number, halt = some number → 1 ≤ number)
    (finished : Finished (values.map (·.1) ++ keys) halt output bodies) :
    pass (values.map fun pair => (format.key pair.1, spelled format pair.2)) (keys.map format.key)
      (halt.map format.key) work.output work.bodies = ⟨work.output, work.bodies, false⟩ := by
  have absent : ∀ number ∈ values.map (·.1) ++ keys, ∀ value exempt,
      (⟨work.output, work.bodies, false⟩ : Work).replace (format.key number) value exempt =
        ⟨work.output, work.bodies, false⟩ := by
    intro number mem value exempt
    refine replace_of_absent (Bool.eq_false_iff.2 fun found => ?_) fun body hbody =>
      Bool.eq_false_iff.2 fun found => ?_
    · rw [spells.output] at found
      exact finished.text_done number mem ((contains_spelled h (pos number mem) output_sound).1 found)
    · rw [spells.bodies] at hbody
      obtain ⟨source, hsource, rfl⟩ := List.mem_map.1 hbody
      exact finished.sections_done source hsource number mem
        ((contains_spelled h (pos number mem) (sound source hsource)).1 found)
  rw [pass, replaceCells_of_none, replaceSections_of_none]
  · cases halt with
    | none => rfl
    | some number =>
      have text : Text.beforeFirst? work.output (format.key number) = none := by
        rw [spells.output, Text.beforeFirst?, spelled, String.toList_ofList,
          before?_spell h (haltPos number rfl) output_sound, if_neg (finished.halt_done number rfl)]
        rfl
      simp only [Option.map_some, Work.cutAt, text]
  · intro key mem
    obtain ⟨number, hnumber, rfl⟩ := List.mem_map.1 mem
    exact absent number (List.mem_append_right _ hnumber)
  · intro cell mem
    obtain ⟨pair, hpair, rfl⟩ := List.mem_map.1 mem
    exact absent pair.1 (List.mem_append_left _ (List.mem_map.2 ⟨pair, hpair, rfl⟩))

section Settle

variable {text : String} {sections : Dict String} {output : List Atom}
  {bodies : List (Nat × List Atom)}
  (spells : (⟨text, sections, false⟩ : Work).Spells format output bodies)
  (output_sound : ∀ atom ∈ output, atom.Sound mark) (sound : BodiesSound mark bodies)
  {values : List (Nat × List Atom)} (entries : Entries mark values) {keys : List Nat}
  {halt : Option Nat} (keysPos : ∀ number ∈ keys, 1 ≤ number)
  (haltPos : ∀ number, halt = some number → 1 ≤ number)
  (flat : ∀ body ∈ bodies.map (fun body => (body.1, fillAtoms values body.2)),
    ∀ number ∈ keys, .key number ∉ body.2)

include h spells output_sound sound entries keysPos haltPos flat

/-- **A pass** fills in the entries, then the sections, and cuts the text off. -/
theorem Work.Spells.pass :
    let filled := bodies.map fun body => (body.1, fillAtoms values body.2)
    let result := cutAtoms halt (fillAtoms (sectionValues keys filled) (fillAtoms values output))
    (Outline.pass (values.map fun pair => (format.key pair.1, spelled format pair.2))
        (keys.map format.key) (halt.map format.key) text sections).Spells format result filled ∧
      (∀ atom ∈ result, atom.Sound mark) ∧ BodiesSound mark filled := by
  intro filled result
  have output_filled := sound_fillAtoms output_sound entries.sound
  have bodies_sound : BodiesSound mark filled := by
    intro body mem
    obtain ⟨source, hsource, rfl⟩ := List.mem_map.1 mem
    exact sound_fillAtoms (sound source hsource) entries.sound
  have values_sound : ∀ pair ∈ sectionValues keys filled, ∀ atom ∈ pair.2, atom.Sound mark := by
    intro pair mem
    obtain ⟨number, -, rfl⟩ := List.mem_map.1 mem
    exact sound_lookup bodies_sound number
  have result_sound := sound_fillAtoms output_filled values_sound
  have cells := spells.replaceCells h entries output_sound sound
  have spliced := cells.replaceSections h keysPos output_filled bodies_sound flat
  exact ⟨spliced.cutAt h haltPos result_sound, fun atom mem => result_sound atom (mem_cutAtoms mem),
    bodies_sound⟩

/-- **Filling in settles after one pass** that replaces something. The text is that
of the atoms with entries and sections filled in, up to the key at which output stops. -/
theorem Work.Spells.settle (passes : Nat) :
    Outline.settle (values.map fun pair => (format.key pair.1, spelled format pair.2))
        (keys.map format.key) (halt.map format.key) (passes + 2) text sections =
      some (spelled format (cutAtoms halt
        (fillAtoms (sectionValues keys (bodies.map fun body => (body.1, fillAtoms values body.2)))
          (fillAtoms values output)))) := by
  obtain ⟨first, result_sound, bodies_sound⟩ :=
    spells.pass h output_sound sound entries keysPos haltPos flat
  have pos : ∀ number ∈ values.map (·.1) ++ keys, 1 ≤ number := by
    intro number mem
    rcases List.mem_append.1 mem with mem | mem
    · obtain ⟨pair, hpair, rfl⟩ := List.mem_map.1 mem
      exact entries.pos pair hpair
    · exact keysPos number mem
  have second := first.pass_of_finished h result_sound bodies_sound pos haltPos
    (finished_of_fill entries.closed flat output halt)
  rw [Outline.settle]
  generalize Outline.pass _ _ _ text sections = work at first second ⊢
  by_cases changed : work.changed = true
  · rw [if_pos changed, Outline.settle, second, first.output]
    rfl
  · rw [if_neg changed, first.output]

end Settle

end Passes

end Outline
end MailMerge
