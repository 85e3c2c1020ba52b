/-
# Selecting names

A selector says which names are personal: their values differ between the
recipients of a batch, so what reads them is put off until a recipient is known.
-/

namespace MailMerge
namespace Render

/-- **A selector of names,** with the pattern it was made from, if it was made
from one. -/
structure Selector where
  selects : String → Bool
  pattern? : Option String

/-- The selector of the names in a list. -/
def Selector.ofNames (names : List String) : Selector := ⟨fun name => names.contains name, none⟩

/-- A selector as a listing for people. -/
def Selector.listing (selector : Selector) : String :=
  match selector.pattern? with
  | some pattern => "SeparationPredicate(/" ++ pattern ++ "/)"
  | none => "SeparationPredicate(..)"

end Render
end MailMerge
