/-
# Outlines as JSON

An outline is listed as an object with its text, its fragments, what fills its
placeholders, and the texts of its sections.
-/

import MailMerge.Json.Printer
import MailMerge.Outline.Basic

namespace MailMerge
namespace Outline

/-- A fragment as an object of one member, named for its kind. -/
def Fragment.toJson : Fragment → Json
  | .literal text => Json.ofMembers [("literal", .text text)]
  | .output key => Json.ofMembers [("variable", .text key)]
  | .choice key => Json.ofMembers [("section", .text key)]
  | .halt key => Json.ofMembers [("halt", .text key)]

/-- What fills a placeholder: an output's markup, or a choice's section and how
many predicates must and must not hold. -/
def Producer.toJson : Producer → Json
  | .output source => Json.ofMembers [("markup", .text source.markup)]
  | .choice source => Json.ofMembers [
      ("section", .text source.body),
      ("positive", .ofNat (source.guard.conditions true).length),
      ("negative", .ofNat (source.guard.conditions false).length)]

/-- **The listing of an outline.** -/
def toJson (outline : Outline) : Json := Json.ofMembers [
  ("text", .text outline.text),
  ("fragments", .array (outline.fragments.map Fragment.toJson)),
  ("variables", .object (outline.producers.mapEntries Producer.toJson)),
  ("sections", .object (outline.sectionTexts.mapEntries .text))]

end Outline
end MailMerge
