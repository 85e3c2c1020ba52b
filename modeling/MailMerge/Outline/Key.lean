/-
# Placeholder keys

A key stands in a text for something that is filled in later. It is a number
between two marks. A keyring hands out keys for slots, counting from one, and
gives a slot it knows the key that the slot got first. It keeps the last number
and the slots that have keys apart from each other.
-/

namespace MailMerge
namespace Outline

/-- **The marks around the number of a key.** -/
structure KeyFormat where
  opening : String
  closing : String
deriving DecidableEq, Repr

/-- Two characters for private use, which texts have no reason to contain. -/
def KeyFormat.standard : KeyFormat := ⟨"\uE000", "\uE001"⟩

/-- The key with a number. -/
def KeyFormat.key (format : KeyFormat) (number : Nat) : String :=
  format.opening ++ toString number ++ format.closing

/-- **What a key can stand for:** an output, the choice whether one of a branch's
sections is shown, the text of that section, or the end of all output. -/
inductive Slot where
  | output (id : Nat)
  | choice (branch run : Nat)
  | body (branch run : Nat)
  | halt
deriving DecidableEq, Repr

/-- **A keyring:** the number of the last key, and the slots that have keys, newest first. -/
structure Keyring where
  format : KeyFormat
  counter : Nat
  known : List (Slot × String)

/-- The keyring that has handed out nothing. -/
def Keyring.ofFormat (format : KeyFormat) : Keyring := ⟨format, 0, []⟩

/-- The number of slots that have keys. -/
def Keyring.size (ring : Keyring) : Nat := ring.known.length

/-- The key a slot has among `known`. -/
def findKey (slot : Slot) : List (Slot × String) → Option String
  | [] => none
  | (other, key) :: rest => if other = slot then some key else findKey slot rest

/-- The key a slot has already. -/
def Keyring.find? (ring : Keyring) (slot : Slot) : Option String := findKey slot ring.known

/-- **The key of a slot,** a new one if it has none yet. -/
def Keyring.take (ring : Keyring) (slot : Slot) : String × Keyring :=
  match ring.find? slot with
  | some key => (key, ring)
  | none =>
    let key := ring.format.key (ring.counter + 1)
    (key, { ring with counter := ring.counter + 1, known := (slot, key) :: ring.known })

/-- Taking a key changes no format. -/
@[simp] theorem Keyring.take_format (ring : Keyring) (slot : Slot) :
    (ring.take slot).2.format = ring.format := by
  unfold Keyring.take
  split <;> rfl

/-- A slot keeps the key it was given. -/
theorem Keyring.find?_take (ring : Keyring) (slot : Slot) :
    (ring.take slot).2.find? slot = some (ring.take slot).1 := by
  unfold Keyring.take
  split
  · assumption
  · simp [Keyring.find?, findKey]

/-- Taking a key again gives the same key and changes nothing. -/
theorem Keyring.take_take (ring : Keyring) (slot : Slot) :
    (ring.take slot).2.take slot = ring.take slot := by
  have h := ring.find?_take slot
  rw [Keyring.take, h]

end Outline
end MailMerge
