/-
# Keys without gaps

A keyring is asked for the keys of slots, one after the other, and a slot may be asked for as
often as wanted. What it answers is decided by the slots alone:

| asked for | answer |
| --- | --- |
| a slot that is new, after `n` different slots | the key with the number `n + 1` |
| a slot that has been asked for before | the key it got then |

So the numbers in use are those from one up to the counter, each for one slot, and two requests
are answered alike exactly if they are for one slot (`served_run`). Neither mark matters for it:
both may hold digits or be empty.
-/

import MailMerge.Proofs.Outline.Keyring
import Mathlib.Data.Finset.Card
import Mathlib.Data.Finset.Dedup

namespace MailMerge
namespace Outline
namespace Keyring

variable {ring : Keyring} {slot : Slot} {slots before after : List Slot}

/-- **What is answered** to requests for slots, one after the other. -/
def answers (ring : Keyring) : List Slot → List String
  | [] => []
  | slot :: rest => (ring.take slot).1 :: (ring.take slot).2.answers rest

theorem takeAll_append (ring : Keyring) (before after : List Slot) :
    ring.takeAll (before ++ after) = (ring.takeAll before).takeAll after := List.foldl_append

theorem takeAll_cons (ring : Keyring) (slot : Slot) (rest : List Slot) :
    ring.takeAll (slot :: rest) = (ring.take slot).2.takeAll rest := rfl

/-- **Every request is answered with the key the slot has in the end.** -/
theorem answers_eq_map (ring : Keyring) (slots : List Slot) :
    ring.answers slots = slots.map (ring.takeAll slots).keyOf := by
  induction slots generalizing ring with
  | nil => rfl
  | cons slot rest ih =>
    have kept := ((ring.take slot).2.extends_takeAll rest).keyOf (ring.has_take slot)
    rw [answers, ih, List.map_cons, takeAll_cons, kept, keyOf_take]

/-- A slot that was asked for has a key. -/
theorem has_takeAll (ring : Keyring) (mem : slot ∈ slots) : (ring.takeAll slots).Has slot := by
  obtain ⟨before, after, rfl⟩ := List.append_of_mem mem
  rw [takeAll_append, takeAll_cons]
  exact (extends_takeAll _ after).has (has_take _ slot)

/-- A slot that has a key changes nothing when it is asked for. -/
theorem Has.take (has : ring.Has slot) : (ring.take slot).2 = ring := by
  rw [take_of_known has.find?]

/-- **One key for each slot that was asked for.** -/
theorem size_takeAll_ofFormat (format : KeyFormat) (slots : List Slot) :
    ((ofFormat format).takeAll slots).size = slots.toFinset.card := by
  induction slots using List.reverseRecOn with
  | nil => rfl
  | append_singleton earlier slot ih =>
    have slots : (earlier ++ [slot]).toFinset = insert slot earlier.toFinset := by
      rw [List.toFinset_append, List.toFinset_cons, List.toFinset_nil, Finset.union_comm]
      rfl
    rw [takeAll_append, slots]
    by_cases mem : slot ∈ earlier
    · rw [Finset.insert_eq_of_mem (List.mem_toFinset.2 mem), ← ih]
      exact congrArg size (has_takeAll _ mem).take
    · have new : ((ofFormat format).takeAll earlier).find? slot = none := find?_takeAll_of_not_mem mem
      rw [Finset.card_insert_of_notMem fun inside => mem (List.mem_toFinset.1 inside), ← ih, takeAll_cons,
        take_of_new new]
      rfl

/-- **A slot that is new gets the next number,** one more than there were slots before, and keeps
it whatever is asked for after. -/
theorem keyOf_takeAll_new (format : KeyFormat) (new : slot ∉ before) (after : List Slot) :
    ((ofFormat format).takeAll (before ++ slot :: after)).keyOf slot =
      format.key (before.toFinset.card + 1) := by
  have unknown : ((ofFormat format).takeAll before).find? slot = none := find?_takeAll_of_not_mem new
  have counted := ((regular_ofFormat format).takeAll before).counted
  rw [takeAll_append, takeAll_cons, (extends_takeAll _ after).keyOf (has_take _ slot), keyOf_take,
    take_of_new unknown, counted, size_takeAll_ofFormat, takeAll_format]
  rfl

/-- **A run of a keyring with these marks:** what its counter, its keys and its answers are after
it was asked for `slots`, one after the other. -/
structure Served (format : KeyFormat) (slots : List Slot) (keys : List String) (ring : Keyring) :
    Prop where
  /-- The counter is the number of slots that have keys. -/
  counted : ring.counter = ring.size
  /-- 64 bits hold the counter. -/
  fits : (UInt64.ofNat ring.counter).toNat = ring.counter
  /-- The slots that have keys are those that were asked for. -/
  size : ring.size = slots.toFinset.card
  /-- The slot that is new after `before` has the number of a slot more than that, at every place
  where it is asked for. -/
  numbered : ∀ before slot after, slots = before ++ slot :: after → slot ∉ before →
    ∀ place : Nat, slots[place]? = some slot →
      keys[place]? =
        some (format.opening ++ toString (before.toFinset.card + 1) ++ format.closing)
  /-- Two requests get one key exactly if they are for one slot. -/
  alike : ∀ first second : Nat, keys[first]? = keys[second]? ↔ slots[first]? = slots[second]?

/-- **Keys are dense, kept and different:** whatever the marks and whatever is asked for, in a run
of fewer than `2^64` requests the counter is the number of slots that have keys, the `n`-th slot
that is new has the key with the number `n` from then on, and different slots have different keys. -/
theorem served_run (format : KeyFormat) (slots : List Slot) (few : slots.length < UInt64.size) :
    Served format slots ((ofFormat format).answers slots) ((ofFormat format).takeAll slots) := by
  have regular := (regular_ofFormat format).takeAll slots
  have size := size_takeAll_ofFormat format slots
  have answered : ∀ place : Nat, ((ofFormat format).answers slots)[place]? =
      slots[place]?.map ((ofFormat format).takeAll slots).keyOf := fun place => by
    rw [answers_eq_map, List.getElem?_map]
  refine ⟨regular.counted, ?_, size, ?_, fun first second => ?_⟩
  · have bound : slots.toFinset.card < UInt64.size := slots.toFinset_card_le.trans_lt few
    rw [regular.counted, size]
    exact UInt64.toNat_ofNat_of_lt' bound
  · intro before slot after whole new place asked
    rw [answered, asked, Option.map_some, whole, keyOf_takeAll_new format new after]
    rfl
  · rw [answered, answered]
    refine ⟨fun same => ?_, fun same => by rw [same]⟩
    cases asked : slots[first]? with
    | none =>
      rw [asked] at same
      exact (Option.map_eq_none_iff.1 same.symm).symm
    | some slot =>
      rw [asked] at same
      obtain ⟨other, asked', key⟩ := Option.map_eq_some_iff.1 same.symm
      rw [asked']
      exact congrArg some (regular.keyOf_injective (has_takeAll _ (List.mem_of_getElem? asked))
        (has_takeAll _ (List.mem_of_getElem? asked')) key.symm)

/-- With a digit as the opening mark and no closing mark: a slot that is asked for twice has the
first key both times, and the third new slot the third. -/
theorem served_run_digits :
    [Slot.output 3, .body 3 0, .output 3, .choice 3 0].length < UInt64.size ∧
      ((ofFormat ⟨"1", ""⟩).answers [.output 3, .body 3 0, .output 3, .choice 3 0])[2]? = some "11" ∧
      ((ofFormat ⟨"1", ""⟩).answers [.output 3, .body 3 0, .output 3, .choice 3 0])[3]? = some "13" := by
  have few : [Slot.output 3, .body 3 0, .output 3, .choice 3 0].length < UInt64.size := by decide
  have served := served_run ⟨"1", ""⟩ _ few
  exact ⟨few, served.numbered [] (.output 3) [.body 3 0, .output 3, .choice 3 0] rfl (by decide) 2 rfl,
    served.numbered [.output 3, .body 3 0, .output 3] (.choice 3 0) [] rfl (by decide) 3 rfl⟩

end Keyring
end Outline
end MailMerge
