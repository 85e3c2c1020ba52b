/-
# Values that JSON keeps

A value that is turned into a JSON document and read back from it is the same value, down to its
constructors, as long as JSON has a form for all of it (`ofJson_toJson_eq_iff`):

| value | document | read back |
| --- | --- | --- |
| `nil`, truth value, whole number, text | as it is | the same |
| finite double, also one that is whole or minus zero | the double | the same |
| other double | `null` | `nil` |
| array | its items in their order | the array of what they become |
| map | an object, built up name by name | a map, built up name by name |
| object | its text | a text |

Both ways a map is rebuilt by inserting its members one after the other, so it has to be in order
to come back as it was. Every table that was itself built by insertion is.
-/

import MailMerge.Proofs.DictPairs
import MailMerge.Value.Basic

namespace MailMerge
namespace Value

/-- **A finite double.** -/
def Finite (f : Float) : Prop :=
  ∃ negative mantissa exponent, Decimal.Double.ofFloat f = .finite negative mantissa exponent

mutual

/-- **The parts of a value:** the value, and what is inside its arrays and maps. -/
def parts : Value → List Value
  | .nil => [.nil]
  | .bool value => [.bool value]
  | .int value => [.int value]
  | .float value => [.float value]
  | .text value => [.text value]
  | .array items => .array items :: partsOfItems items
  | .map ⟨members⟩ => .map ⟨members⟩ :: partsOfMembers members
  | .object identity member written => [.object identity member written]
termination_by structural value => value

/-- The parts of the items of an array. -/
def partsOfItems : List Value → List Value
  | [] => []
  | item :: items => parts item ++ partsOfItems items
termination_by structural items => items

/-- The parts of the members of a map. -/
def partsOfMembers : List (String × Value) → List Value
  | [] => []
  | (_, member) :: members => parts member ++ partsOfMembers members
termination_by structural members => members

end

/-- **What JSON has a form for:** no object, and a double only if it is finite. A map has to be in
order to be one that was built by insertion. -/
def Kept : Value → Prop
  | .float value => Finite value
  | .map members => members.Sorted
  | .object .. => False
  | _ => True

/-! ### Members of maps -/

theorem toMembers_eq (members : List (String × Value)) :
    toMembers members = (Dict.mapEntries toJson ⟨members⟩).pairs := by
  induction members with
  | nil => rfl
  | cons pair members ih =>
    rw [toMembers, ih]
    rfl

theorem ofMembers_eq (members : List (String × Json)) :
    ofMembers members = (Dict.mapEntries ofJson ⟨members⟩).pairs := by
  induction members with
  | nil => rfl
  | cons pair members ih =>
    rw [ofMembers, ih]
    rfl

theorem toJson_map (members : Dict Value) :
    toJson (.map members) = .object (Dict.ofList (toMembers members.pairs)) := rfl

theorem ofJson_object (members : Dict Json) :
    ofJson (.object members) = .map (Dict.ofList (ofMembers members.pairs)) := rfl

/-- **A map in order is rebuilt in order,** on both ways. -/
theorem ofJson_toJson_map {members : Dict Value} (sorted : members.Sorted) :
    ofJson (toJson (.map members)) = .map ⟨ofMembers (toMembers members.pairs)⟩ := by
  have there := (Dict.sorted_mapEntries_iff toJson).2 sorted
  have back := (Dict.sorted_mapEntries_iff ofJson).2 there
  rw [toJson_map, ofJson_object, toMembers_eq, Dict.ofList_pairs there, ofMembers_eq,
    Dict.ofList_pairs back]

/-- What comes back as a map is in order. -/
theorem sorted_of_ofJson_toJson {members : Dict Value}
    (same : ofJson (toJson (.map members)) = .map members) : members.Sorted := by
  rw [toJson_map, ofJson_object] at same
  exact Value.map.inj same ▸ Dict.sorted_ofList _

/-! ### There and back -/

/-- **A double comes back exactly if it is finite.** -/
theorem ofJson_ofFloat_iff (f : Float) : ofJson (.ofFloat f) = .float f ↔ Finite f := by
  unfold Json.ofFloat Finite
  cases taken : Decimal.Double.ofFloat f with
  | nan => simp [ofJson]
  | infinite negative => simp [ofJson]
  | finite negative mantissa exponent => simp [ofJson]

mutual

/-- **A value comes back exactly if all its parts are kept.** -/
theorem ofJson_toJson (value : Value) :
    ofJson (toJson value) = value ↔ ∀ part ∈ value.parts, part.Kept := by
  match value with
  | .nil => exact iff_of_true rfl (List.forall_mem_singleton.2 trivial)
  | .bool _ => exact iff_of_true rfl (List.forall_mem_singleton.2 trivial)
  | .int _ => exact iff_of_true rfl (List.forall_mem_singleton.2 trivial)
  | .float f =>
    rw [toJson, parts, List.forall_mem_singleton]
    exact ofJson_ofFloat_iff f
  | .text _ => exact iff_of_true rfl (List.forall_mem_singleton.2 trivial)
  | .array items =>
    rw [toJson, ofJson, parts, Value.array.injEq, List.forall_mem_cons, ofItems_toItems items]
    exact ⟨fun kept => ⟨trivial, kept⟩, And.right⟩
  | .map ⟨members⟩ =>
    have back := ofMembers_toMembers members
    rw [parts, List.forall_mem_cons]
    refine ⟨fun same => ?_, fun ⟨sorted, kept⟩ => ?_⟩
    · have sorted := sorted_of_ofJson_toJson same
      rw [ofJson_toJson_map sorted] at same
      exact ⟨sorted, back.1 (Dict.mk.inj (Value.map.inj same))⟩
    · rw [ofJson_toJson_map sorted, back.2 kept]
  | .object identity member written =>
    exact iff_of_false Value.noConfusion fun kept => List.forall_mem_singleton.1 kept
termination_by structural value

theorem ofItems_toItems (items : List Value) :
    ofItems (toItems items) = items ↔ ∀ part ∈ partsOfItems items, part.Kept := by
  match items with
  | [] => exact iff_of_true rfl (List.forall_mem_nil _)
  | item :: items =>
    rw [toItems, ofItems, partsOfItems, List.cons.injEq, List.forall_mem_append]
    exact and_congr (ofJson_toJson item) (ofItems_toItems items)
termination_by structural items

theorem ofMembers_toMembers (members : List (String × Value)) :
    ofMembers (toMembers members) = members ↔ ∀ part ∈ partsOfMembers members, part.Kept := by
  match members with
  | [] => exact iff_of_true rfl (List.forall_mem_nil _)
  | (name, member) :: members =>
    rw [toMembers, ofMembers, partsOfMembers, List.cons.injEq, Prod.mk.injEq, eq_self, true_and,
      List.forall_mem_append]
    exact and_congr (ofJson_toJson member) (ofMembers_toMembers members)
termination_by structural members

end

/-- **Plain data goes through JSON unchanged, and nothing else does:** a value is read back as
the identical value exactly if no part of it is an object, every double in it is finite, and every
map in it is in the order of its names. -/
theorem ofJson_toJson_eq_iff (value : Value) :
    ofJson (toJson value) = value ↔
      (∀ identity member written, Value.object identity member written ∉ value.parts) ∧
      (∀ f, Value.float f ∈ value.parts → Finite f) ∧
      (∀ members, Value.map members ∈ value.parts → members.Sorted) := by
  rw [ofJson_toJson]
  refine ⟨fun kept => ⟨fun _ _ _ mem => kept _ mem, fun _ mem => kept _ mem, fun _ mem => kept _ mem⟩,
    fun ⟨bare, finite, sorted⟩ part mem => ?_⟩
  cases part with
  | float f => exact finite f mem
  | map members => exact sorted members mem
  | object identity member written => exact bare identity member written mem
  | nil => trivial
  | bool value => trivial
  | int value => trivial
  | text value => trivial
  | array items => trivial

end Value
end MailMerge
