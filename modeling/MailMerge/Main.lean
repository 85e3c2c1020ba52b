/-
# The program

Reads the files that the arguments name and the standard input, runs the command
line on them, and leaves its texts and its status.
-/

import MailMerge.CommandLine.Run

namespace MailMerge
namespace CommandLine

/-- Why a file could not be read. -/
def reasonOf : IO.Error → String
  | .noFileOrDirectory .. => noSuchFile
  | other => toString other

/-- The text of a file, or why it cannot be read. -/
def loadFile (path : String) : IO (String × Except String String) := do
  try
    return (path, .ok (← IO.FS.readFile path))
  catch error => return (path, .error (reasonOf error))

/-- The files that the arguments name. -/
def namedFiles (arguments : List String) : List String :=
  match Options.ofArguments arguments with
  | .error _ => []
  | .ok options =>
    options.template.toList ++ options.data.toList ++ options.config.toList
      ++ options.recipients.toList

/-- The standard input, where a template is to be read from it. -/
def loadInput (arguments : List String) : IO String := do
  match Options.ofArguments arguments with
  | .ok options => if options.template.isNone then (← IO.getStdin).readToEnd else return ""
  | .error _ => return ""

/-- What a run with the given arguments finds. -/
def loadWorld (arguments : List String) : IO World := do
  let files ← (namedFiles arguments).mapM loadFile
  let input ← loadInput arguments
  return ⟨fun path => (files.lookup path).getD (.error noSuchFile), input⟩

end CommandLine
end MailMerge

open MailMerge.CommandLine in
/-- **The program.** -/
def main (arguments : List String) : IO UInt32 := do
  let result := run (← loadWorld arguments) arguments
  IO.print result.stdout
  IO.eprint result.stderr
  return result.status.toUInt32
