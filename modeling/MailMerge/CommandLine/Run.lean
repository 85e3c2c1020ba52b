/-
# The command line

A run reads the settings, the template, the shared data and the recipients, in
this order, and stops with status 1 at the first of them that cannot be read.
Then it lists the outline, or merges the recipients, or renders the template.
Arguments that are not well formed end it with status 2, and a fault for which
there is no report with status 101.
-/

import MailMerge.CommandLine.Arguments
import MailMerge.Json.Reader
import MailMerge.Outline.Listing
import MailMerge.Source.Report
import MailMerge.Template

namespace MailMerge
namespace CommandLine

open Render (Scope)
open Outline (Recipients)

/-- **What a run leaves behind.** -/
structure Result where
  status : Nat
  stdout : String
  stderr : String

/-- A run that ends with a message. -/
def Result.failed (message : String) : Result := ⟨1, "", message ++ "\n"⟩

/-- What a run finds: the text of a file or why it cannot be read, and the
standard input. -/
structure World where
  contentOf : String → Except String String
  stdin : String

/-- Why a file that does not exist cannot be read. -/
def noSuchFile : String := "No such file or directory (os error 2)"

/-- The settings of the options. -/
def readSettings (world : World) (options : Options) : Except Result Settings := do
  let loaded ← match options.config with
    | none => .ok Settings.standard
    | some path =>
      let failed := fun reason => Result.failed ("Error loading config '" ++ path ++ "': " ++ reason)
      match world.contentOf path with
      | .error reason => .error (failed ("Failed to read config file: " ++ reason))
      | .ok content => (Settings.ofDocument content).mapError fun fault => failed fault.message
  let settings := if options.strict then { loaded with strict := true } else loaded
  match options.separate with
  | none => return settings
  | some pattern =>
    match Settings.selectorOf pattern with
    | .ok selector => return { settings with selector := some selector }
    | .error fault => throw (.failed ("Error in --separate: " ++ fault.message))

/-- The text of a file that must be readable. -/
def readContent (world : World) (path : String) : Except Result String :=
  (world.contentOf path).mapError fun reason =>
    .failed ("Error reading file '" ++ path ++ "': " ++ reason)

/-- The source of the template and the name that reports give it. -/
def readSource (world : World) (options : Options) : Except Result (String × String) := do
  match options.template with
  | none => return (world.stdin, "<stdin>")
  | some path => return (← readContent world path, path)

/-- The template of the options. -/
def readTemplate (world : World) (options : Options) : Except Result Template := do
  let settings ← readSettings world options
  let (source, file) ← readSource world options
  match Template.ofSource .standard settings source with
  | .ok template => return template
  | .error fault =>
    match fault.report? source file with
    | some report => throw ⟨1, "", report⟩
    | none => throw ⟨101, "", ""⟩

/-- The members of the JSON object in a file. -/
def readMembers (world : World) (path : String) : Except Result Scope := do
  let content ← readContent world path
  match Json.read? content with
  | none => throw (.failed ("Error parsing JSON '" ++ path ++ "': not a JSON document"))
  | some document =>
    match Value.ofJson document with
    | .map members => return members
    | _ => throw (.failed ("'" ++ path ++ "' must contain a JSON object"))

/-- The arrays of values among members; each of them must be one. -/
def arraysOf (path : String) : List (String × Value) → Except Result (List (String × List Value))
  | [] => .ok []
  | (name, value) :: rest =>
    match value with
    | .array values => (arraysOf path rest).map ((name, values) :: ·)
    | _ =>
      .error (.failed ("'" ++ path ++ "': recipient entry '" ++ name ++ "' must be an array"))

/-- The recipients in a file. -/
def readRecipients (world : World) (path : String) : Except Result Recipients := do
  let members ← readMembers world path
  return ⟨← arraysOf path members.pairs⟩

/-- A run that ends with a fault of a merge or of rendering. -/
def failedWith (message : String) : Result := .failed ("Error: " ++ message)

/-- The run that a set of options asks for, or the result it stops with. -/
def runOptions (world : World) (options : Options) : Except Result Result := do
  let template ← readTemplate world options
  let shared ← match options.data with
    | none => .ok ∅
    | some path => readMembers world path
  if options.listOutline then
    match (template.outline shared).1 with
    | .ok outline => return ⟨0, outline.toJson.print ++ "\n", ""⟩
    | .error fault => throw (failedWith fault.message)
  match options.recipients with
  | some path =>
    let recipients ← readRecipients world path
    match (template.merge shared recipients).1 with
    | .ok texts => return ⟨0, (Json.ofTexts texts).print ++ "\n", ""⟩
    | .error fault => throw (failedWith fault.message)
  | none =>
    match template.render shared with
    | .ok text => return ⟨0, text, ""⟩
    | .error fault => throw (failedWith fault.message)

/-- How the command line is used. -/
def usage : String :=
  "Usage: [OPTIONS] [TEMPLATE]\n\n" ++
  "  -d, --data FILE        shared data, a JSON object\n" ++
  "  -c, --config FILE      settings\n" ++
  "  -r, --recipients FILE  personal data, a JSON object of arrays\n" ++
  "      --separate PATTERN the names that are personal\n" ++
  "      --strict           fail on the first fault\n" ++
  "      --dump-skeleton    list the outline as JSON\n" ++
  "  -v, --verbose          say more\n" ++
  "  -h, --help             show this\n"

/-- **A run of the command line.** -/
def run (world : World) (arguments : List String) : Result :=
  match Options.ofArguments arguments with
  | .error .usage => ⟨2, "", usage⟩
  | .error .help => ⟨0, usage, ""⟩
  | .ok options =>
    match runOptions world options with
    | .ok result => result
    | .error result => result

end CommandLine
end MailMerge
