/-
# Keys that can be told apart

A keyring numbers the slots it is asked for, from one on and each once. The key
of a slot is its number between the marks, and the number can be read off it, so
two slots never share a key. This holds whatever the marks are, and of every
keyring, whatever keys have been taken from it before.
-/

import MailMerge.Outline.Key

namespace MailMerge
namespace Outline

/-- **Numbers are written differently.** -/
theorem toDigits_injective {m n : Nat} (h : Nat.toDigits 10 m = Nat.toDigits 10 n) : m = n := by
  rw [← Nat.ofDigitChars_ten_toDigits (n := m), h, Nat.ofDigitChars_ten_toDigits]

theorem KeyFormat.toList_key (format : KeyFormat) (number : Nat) :
    (format.key number).toList =
      format.opening.toList ++ (Nat.toDigits 10 number ++ format.closing.toList) := by
  rw [key, String.toList_append, String.toList_append, Nat.toString_eq_ofList_toDigits,
    String.toList_ofList, List.append_assoc]

/-- **A key determines its number.** -/
theorem KeyFormat.key_injective {format : KeyFormat} {m n : Nat}
    (h : format.key m = format.key n) : m = n := by
  have lists := congrArg String.toList h
  rw [toList_key, toList_key] at lists
  exact toDigits_injective (List.append_cancel_right (List.append_cancel_left lists))

namespace Keyring

/-- Keys are taken for slots one after the other. -/
def takeAll (ring : Keyring) (slots : List Slot) : Keyring :=
  slots.foldl (fun ring slot => (ring.take slot).2) ring

/-- **Numbered slots,** newest first: each has the key with its number, and none
comes twice. -/
inductive Numbered (format : KeyFormat) : List (Slot × String) → Prop
  | nil : Numbered format []
  | cons {known : List (Slot × String)} {slot : Slot} (new : findKey slot known = none)
      (rest : Numbered format known) :
      Numbered format ((slot, format.key (known.length + 1)) :: known)

/-- **A regular keyring** has handed out the keys with the numbers from one on, one
for each slot it was asked for, and its counter is at the last of them. -/
structure Regular (ring : Keyring) : Prop where
  numbered : Numbered ring.format ring.known
  counted : ring.counter = ring.size

theorem regular_ofFormat (format : KeyFormat) : (ofFormat format).Regular := ⟨.nil, rfl⟩

/-- **Taking a key keeps a keyring regular.** -/
theorem Regular.take {ring : Keyring} (h : ring.Regular) (slot : Slot) :
    (ring.take slot).2.Regular := by
  unfold Keyring.take
  split
  · exact h
  · rename_i new
    have next : ring.counter + 1 = ring.known.length + 1 := congrArg (· + 1) h.counted
    refine ⟨?_, next⟩
    dsimp only
    rw [next]
    exact .cons new h.numbered

theorem Regular.takeAll {ring : Keyring} (h : ring.Regular) (slots : List Slot) :
    (ring.takeAll slots).Regular := by
  induction slots generalizing ring with
  | nil => exact h
  | cons slot rest ih => exact ih (h.take slot)

@[simp] theorem takeAll_format (ring : Keyring) (slots : List Slot) :
    (ring.takeAll slots).format = ring.format := by
  induction slots generalizing ring with
  | nil => rfl
  | cons slot rest ih => exact (ih _).trans (ring.take_format slot)

/-- The number of a slot among `known`, zero if it is not there. -/
def findNumber (slot : Slot) : List (Slot × String) → Nat
  | [] => 0
  | (other, _) :: rest => if other = slot then rest.length + 1 else findNumber slot rest

/-- A key that was handed out has a number up to how many there are. -/
theorem Numbered.number {format : KeyFormat} {known : List (Slot × String)}
    (h : Numbered format known) {slot : Slot} {key : String} (found : findKey slot known = some key) :
    1 ≤ findNumber slot known ∧ findNumber slot known ≤ known.length ∧
      key = format.key (findNumber slot known) := by
  induction h with
  | nil => simp [findKey] at found
  | @cons known other new rest ih =>
    simp only [findKey, findNumber] at found ⊢
    split at found
    · obtain rfl := Option.some.inj found
      rename_i same
      rw [if_pos same]
      exact ⟨by omega, Nat.le_refl _, rfl⟩
    · rename_i different
      obtain ⟨pos, le, key⟩ := ih found
      rw [if_neg different]
      exact ⟨pos, Nat.le_succ_of_le le, key⟩

/-- The newest key has not been handed out before. -/
theorem Numbered.ne_newest {format : KeyFormat} {known : List (Slot × String)}
    (h : Numbered format known) {slot : Slot} {key : String} (found : findKey slot known = some key) :
    key ≠ format.key (known.length + 1) := by
  obtain ⟨-, le, key⟩ := h.number found
  intro same
  have := KeyFormat.key_injective (key.symm.trans same)
  omega

/-- **Two slots never share a key.** -/
theorem Numbered.slot_unique {format : KeyFormat} {known : List (Slot × String)}
    (h : Numbered format known) {first second : Slot} {key : String}
    (found : findKey first known = some key) (found' : findKey second known = some key) :
    first = second := by
  induction h with
  | nil => simp [findKey] at found
  | @cons known newest new rest ih =>
    simp only [findKey] at found found'
    split at found <;> split at found'
    · simp_all
    · obtain rfl := Option.some.inj found
      exact absurd rfl (rest.ne_newest found')
    · obtain rfl := Option.some.inj found'
      exact absurd rfl (rest.ne_newest found)
    · exact ih found found'

/-- The slot has a key. -/
def Has (ring : Keyring) (slot : Slot) : Prop := ∃ key, ring.find? slot = some key

/-- The key of a slot that has one. -/
def keyOf (ring : Keyring) (slot : Slot) : String := (ring.find? slot).getD ""

theorem Has.find? {ring : Keyring} {slot : Slot} (h : ring.Has slot) :
    ring.find? slot = some (ring.keyOf slot) := by
  obtain ⟨key, h⟩ := h
  rw [keyOf, h, Option.getD_some]

/-- **Slots that have keys are told apart by them.** -/
theorem Regular.keyOf_injective {ring : Keyring} (h : ring.Regular) {first second : Slot}
    (hfirst : ring.Has first) (hsecond : ring.Has second)
    (same : ring.keyOf first = ring.keyOf second) : first = second :=
  Numbered.slot_unique h.numbered hfirst.find? (same ▸ hsecond.find?)

/-- The number of a slot. -/
def numberOf (ring : Keyring) (slot : Slot) : Nat := findNumber slot ring.known

/-- **The key of a slot is its number between the marks.** -/
theorem Regular.keyOf_eq {ring : Keyring} (h : ring.Regular) {slot : Slot} (has : ring.Has slot) :
    ring.keyOf slot = ring.format.key (ring.numberOf slot) := (h.numbered.number has.find?).2.2

theorem Regular.numberOf_pos {ring : Keyring} (h : ring.Regular) {slot : Slot}
    (has : ring.Has slot) : 1 ≤ ring.numberOf slot := (h.numbered.number has.find?).1

/-- Slots that have keys are told apart by their numbers. -/
theorem Regular.numberOf_injective {ring : Keyring} (h : ring.Regular) {first second : Slot}
    (hfirst : ring.Has first) (hsecond : ring.Has second)
    (same : ring.numberOf first = ring.numberOf second) : first = second := by
  refine h.keyOf_injective hfirst hsecond ?_
  rw [h.keyOf_eq hfirst, h.keyOf_eq hsecond, same]

/-- **A later keyring** has the same marks and gives every slot the key it had. -/
structure Extends (ring later : Keyring) : Prop where
  format : later.format = ring.format
  find? : ∀ {slot key}, ring.find? slot = some key → later.find? slot = some key

theorem Extends.refl (ring : Keyring) : ring.Extends ring := ⟨rfl, id⟩

theorem Extends.trans {first second third : Keyring} (h : first.Extends second)
    (h' : second.Extends third) : first.Extends third :=
  ⟨h'.format.trans h.format, fun found => h'.find? (h.find? found)⟩

theorem Extends.has {ring later : Keyring} (h : ring.Extends later) {slot : Slot}
    (has : ring.Has slot) : later.Has slot := ⟨_, h.find? has.find?⟩

theorem Extends.keyOf {ring later : Keyring} (h : ring.Extends later) {slot : Slot}
    (has : ring.Has slot) : later.keyOf slot = ring.keyOf slot := by
  rw [Keyring.keyOf, h.find? has.find?, Option.getD_some]

/-- **Taking a key gives a later keyring,** in which the slot has that key. -/
theorem extends_take (ring : Keyring) (slot : Slot) : ring.Extends (ring.take slot).2 := by
  refine ⟨take_format ring slot, fun {other key} found => ?_⟩
  unfold Keyring.take
  split
  · exact found
  · rename_i new
    simp only [Keyring.find?, findKey]
    split
    · subst_vars
      rw [new] at found
      simp at found
    · exact found

theorem has_take (ring : Keyring) (slot : Slot) : (ring.take slot).2.Has slot :=
  ⟨_, ring.find?_take slot⟩

theorem keyOf_take (ring : Keyring) (slot : Slot) :
    (ring.take slot).2.keyOf slot = (ring.take slot).1 := by
  rw [keyOf, find?_take, Option.getD_some]

theorem extends_takeAll (ring : Keyring) (slots : List Slot) : ring.Extends (ring.takeAll slots) := by
  induction slots generalizing ring with
  | nil => exact .refl ring
  | cons slot rest ih => exact (ring.extends_take slot).trans (ih _)

/-- **A slot that has a key** gets it again. -/
theorem take_of_known {ring : Keyring} {slot : Slot} {key : String}
    (known : ring.find? slot = some key) : ring.take slot = (key, ring) := by
  rw [take, known]

/-- **A new slot** gets the next number. -/
theorem take_of_new {ring : Keyring} {slot : Slot} (new : ring.find? slot = none) :
    ring.take slot =
      (ring.format.key (ring.counter + 1),
        { ring with
          counter := ring.counter + 1
          known := (slot, ring.format.key (ring.counter + 1)) :: ring.known }) := by
  rw [take, new]

/-- Taking keys for other slots hands out no key for a slot. -/
theorem find?_takeAll_of_not_mem {ring : Keyring} {slots : List Slot} {slot : Slot}
    (other : slot ∉ slots) : (ring.takeAll slots).find? slot = ring.find? slot := by
  induction slots generalizing ring with
  | nil => rfl
  | cons first rest ih =>
    have different : first ≠ slot := fun same => other (same ▸ List.mem_cons_self)
    have step : (ring.take first).2.find? slot = ring.find? slot := by
      unfold take
      split
      · rfl
      · exact if_neg different
    exact (ih fun mem => other (List.mem_cons_of_mem _ mem)).trans step

/-- **As many keys are handed out** as there are new slots. -/
theorem size_takeAll {ring : Keyring} {slots : List Slot} (distinct : slots.Nodup)
    (new : ∀ slot ∈ slots, ring.find? slot = none) :
    (ring.takeAll slots).size = ring.size + slots.length := by
  induction slots generalizing ring with
  | nil => rfl
  | cons slot rest ih =>
    obtain ⟨absent, distinct⟩ := List.nodup_cons.1 distinct
    obtain ⟨own, new⟩ := List.forall_mem_cons.1 new
    have others : ∀ other ∈ rest, (ring.take slot).2.find? other = none := by
      intro other mem
      have different : slot ≠ other := fun same => absent (same ▸ mem)
      rw [take_of_new own]
      exact (if_neg different).trans (new other mem)
    have size : (ring.take slot).2.size = ring.size + 1 := by
      rw [take_of_new own]
      rfl
    have all := ih distinct others
    rw [size] at all
    rw [List.length_cons, Nat.add_comm rest.length, ← Nat.add_assoc]
    exact all

/-- **The last of new slots** gets the last number. -/
theorem keyOf_takeAll_concat {ring : Keyring} (regular : ring.Regular) {slots : List Slot} {slot : Slot}
    (distinct : (slots ++ [slot]).Nodup) (new : ∀ other ∈ slots ++ [slot], ring.find? other = none) :
    (ring.takeAll (slots ++ [slot])).keyOf slot = ring.format.key (ring.size + slots.length + 1) := by
  have absent : slot ∉ slots := fun mem =>
    (List.nodup_append.1 distinct).2.2 slot mem slot (List.mem_singleton_self _) rfl
  have first : (ring.takeAll slots).find? slot = none :=
    (find?_takeAll_of_not_mem absent).trans (new slot (List.mem_append_right _ (List.mem_singleton_self _)))
  have size := size_takeAll (List.nodup_append.1 distinct).1 fun other mem =>
    new other (List.mem_append_left _ mem)
  rw [takeAll, List.foldl_append]
  change (((ring.takeAll slots).take slot).2).keyOf slot = _
  rw [keyOf_take, take_of_new first, (regular.takeAll slots).counted, size, takeAll_format]

end Keyring
end Outline
end MailMerge
