/-
# Arguments of the command line

    [TEMPLATE] [-d|--data FILE] [-c|--config FILE] [-r|--recipients FILE]
    [--separate PATTERN] [--strict] [--dump-skeleton] [-v|--verbose]

An option takes its value from the same argument, after an equals sign or, in the
short form, directly, or else from the next argument, which must not look like an
option. Short forms without a value can be joined. After `--` everything is a
file name. Nothing may be given twice.
-/

namespace MailMerge
namespace CommandLine

/-- **What the arguments ask for.** -/
structure Options where
  template : Option String
  data : Option String
  config : Option String
  recipients : Option String
  separate : Option String
  strict : Bool
  listOutline : Bool
  verbose : Bool

/-- Nothing is asked for. -/
def Options.empty : Options :=
  ⟨none, none, none, none, none, false, false, false⟩

/-- The options that take a value. -/
inductive ValueOption where
  | data
  | config
  | recipients
  | separate
deriving DecidableEq, Repr

/-- The options that take none. -/
inductive Switch where
  | strict
  | listOutline
  | verbose
deriving DecidableEq, Repr

/-- **Why no options come of the arguments:** they are not well formed, or help
was asked for. -/
inductive Stop where
  | usage
  | help
deriving DecidableEq, Repr

/-- Sets a field that is still absent. -/
def once (field : Option String) (value : String) : Except Stop (Option String) :=
  if field.isSome then .error .usage else .ok (some value)

/-- A file name, which is not empty. -/
def fileName (value : String) : Except Stop String :=
  if value.isEmpty then .error .usage else .ok value

/-- Sets the value of an option. -/
def Options.setValue (options : Options) (option : ValueOption) (value : String) :
    Except Stop Options := do
  match option with
  | .data => return { options with data := ← once options.data (← fileName value) }
  | .config => return { options with config := ← once options.config (← fileName value) }
  | .recipients =>
    return { options with recipients := ← once options.recipients (← fileName value) }
  | .separate => return { options with separate := ← once options.separate value }

/-- Sets a switch. -/
def Options.setSwitch (options : Options) (switch : Switch) : Except Stop Options :=
  match switch with
  | .strict => if options.strict then .error .usage else .ok { options with strict := true }
  | .listOutline =>
    if options.listOutline then .error .usage else .ok { options with listOutline := true }
  | .verbose => if options.verbose then .error .usage else .ok { options with verbose := true }

/-- **What an option's name stands for.** -/
inductive Named where
  | value (option : ValueOption)
  | switch (switch : Switch)
  | help

/-- The long names. -/
def longName? (name : String) : Option Named :=
  if name = "data" then some (.value .data)
  else if name = "config" then some (.value .config)
  else if name = "recipients" then some (.value .recipients)
  else if name = "separate" then some (.value .separate)
  else if name = "strict" then some (.switch .strict)
  else if name = "dump-skeleton" then some (.switch .listOutline)
  else if name = "verbose" then some (.switch .verbose)
  else if name = "help" then some .help
  else none

/-- The short names. -/
def shortName? (name : Char) : Option Named :=
  if name = 'd' then some (.value .data)
  else if name = 'c' then some (.value .config)
  else if name = 'r' then some (.value .recipients)
  else if name = 'v' then some (.switch .verbose)
  else if name = 'h' then some .help
  else none

/-- **The arguments being read:** the options so far, the option that waits for
its value, and whether only file names follow. -/
structure Reading where
  options : Options
  waiting : Option ValueOption
  onlyFiles : Bool

/-- An argument that is no option: a value that is waited for, or the template. -/
def Reading.plain (reading : Reading) (argument : String) : Except Stop Reading := do
  match reading.waiting, reading.onlyFiles with
  | some option, false =>
    return { reading with options := ← reading.options.setValue option argument, waiting := none }
  | _, _ =>
    let template ← once reading.options.template (← fileName argument)
    return { reading with options := { reading.options with template := template } }

/-- A long option, with its value if it has one after an equals sign. -/
def Reading.long (reading : Reading) (body : List Char) : Except Stop Reading := do
  let name := body.takeWhile (· != '=')
  let value := (body.dropWhile (· != '=')).tail?.map String.ofList
  match longName? (String.ofList name), value with
  | some (.value option), some value =>
    return { reading with options := ← reading.options.setValue option value }
  | some (.value option), none => return { reading with waiting := some option }
  | some (.switch switch), none =>
    return { reading with options := ← reading.options.setSwitch switch }
  | some .help, none => throw .help
  | _, _ => throw .usage

/-- Short options, one letter after the other; what follows the letter of an
option that takes a value is its value. -/
def Reading.short (reading : Reading) : List Char → Except Stop Reading
  | [] => .ok reading
  | letter :: rest =>
    match shortName? letter with
    | some (.switch switch) =>
      match reading.options.setSwitch switch with
      | .ok options => Reading.short { reading with options := options } rest
      | .error stop => .error stop
    | some (.value option) =>
      match rest with
      | [] => .ok { reading with waiting := some option }
      | '=' :: value =>
        (reading.options.setValue option (String.ofList value)).map fun options =>
          { reading with options := options }
      | value =>
        (reading.options.setValue option (String.ofList value)).map fun options =>
          { reading with options := options }
    | some .help => .error .help
    | none => .error .usage

/-- **One argument.** An option that waits for its value does not get one that
looks like an option. -/
def Reading.step (reading : Reading) (argument : String) : Except Stop Reading :=
  if reading.onlyFiles then reading.plain argument
  else
    match argument.toList with
    | ['-', '-'] =>
      if reading.waiting.isSome then .error .usage else .ok { reading with onlyFiles := true }
    | '-' :: '-' :: body => if reading.waiting.isSome then .error .usage else reading.long body
    | '-' :: letter :: rest =>
      if reading.waiting.isSome then .error .usage else reading.short (letter :: rest)
    | _ => reading.plain argument

/-- **The options of a list of arguments.** -/
def Options.ofArguments (arguments : List String) : Except Stop Options := do
  let reading ← arguments.foldlM Reading.step ⟨.empty, none, false⟩
  if reading.waiting.isSome then throw .usage
  return reading.options

end CommandLine
end MailMerge
