/-
# Ready-made extensions

Tags and filters beyond the standard ones. The tags show what an action can do
with the environment: bind a name, read one, count in a register, raise a signal
to stop, take one up, or fail.
-/

import MailMerge.Tree.Vocabulary

namespace MailMerge
namespace Extension

open Render (Env Filter)
open MailMerge.Tree (LeafAction)

/-- Writes its markup. -/
def echo : LeafAction := fun markup env => (.ok markup, env)

/-- Fails with its markup. -/
def fail : LeafAction := fun markup env => (.error (.custom markup), env)

/-- **Binds a name:** the markup up to its first space, to the rest of it. -/
def assign : LeafAction := fun markup env =>
  let cs := markup.toList
  let name := String.ofList (cs.takeWhile (· != ' '))
  let value := String.ofList ((cs.dropWhile (· != ' ')).drop 1)
  (.ok "", env.set name (.text value))

/-- Writes the value of the name that is its markup. -/
def get : LeafAction := fun markup env => (.ok (env.get markup).output, env)

/-- **Counts in a register** from one, and writes the count. -/
def counter : LeafAction := fun markup env =>
  let count : Value := match env.register markup with
    | .int n => .int (n + 1)
    | _ => .int 1
  (.ok count.output, env.setRegister markup count)

/-- Raises a signal to stop and writes its markup. -/
def interrupt : LeafAction := fun markup env => (.ok markup, env.interrupt .break)

/-- A signal that may be absent, as a listing for people. -/
def listSignal : Option Render.Interrupt → String
  | some signal => "Some(" ++ signal.name ++ ")"
  | none => "None"

/-- Takes up the newest signal and writes which it was. -/
def pop : LeafAction := fun _ env =>
  let (signal, after) := env.takeInterrupt
  (.ok (listSignal signal), after)

/-- The characters of the output in reverse. -/
def reverse : Filter := fun input _ => .ok (.text (String.ofList input.output.toList.reverse))

/-- Fails with the output. -/
def failing : Filter := fun input _ => .error (.custom input.output)

/-- The inspected forms of the input and all arguments. -/
def listing : Filter := fun input arguments =>
  .ok (.text (",".intercalate ((input :: arguments).map Value.inspect)))

end Extension
end MailMerge
