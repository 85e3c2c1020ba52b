/-
# Faults of rendering

Rendering one node can fail: when a number is ordered against a text, when a
filter is not known, when a filter refuses its operands, or when a tag says so.
-/

namespace MailMerge
namespace Render

/-- **A fault of rendering.** -/
inductive Fault where
  | comparison (left right : String)
  | undefinedFilter (name : String)
  | filter (filter message : String)
  | custom (message : String)
deriving DecidableEq, Repr

/-- What is wrong. -/
def Fault.message : Fault → String
  | .comparison left right => "comparison of " ++ left ++ " with " ++ right ++ " failed"
  | .undefinedFilter name => "undefined filter '" ++ name ++ "'"
  | .filter name message => name ++ ": " ++ message
  | .custom message => message

end Render
end MailMerge
