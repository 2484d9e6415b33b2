/-!
# Command line options

Reading the arguments of the command line. An option has a long form `--name`
and a short form `-n`; short forms may be bundled. Two options take a
value, attached or as the next argument; a separate argument that begins with
a dash is no value, unless it is the dash alone.

A value option is taken up only when the next option or the end of the
arguments is reached. An argument that fits no option is therefore reported
before a value that is still missing.
-/

namespace LamApp

/-- The options that take a value. -/
inductive ValueOption where
  | implementation
  | source
deriving DecidableEq

/-- The options that take none. -/
inductive Switch where
  | format
  | verbose
  | help
  | version
deriving DecidableEq

/-- Any option. -/
inductive OptionName where
  | value (option : ValueOption)
  | switch (switch : Switch)
deriving DecidableEq

namespace ValueOption

/-- The option as usage errors show it. -/
def shown : ValueOption → String
  | implementation => "--impl-name <IMPL_NAME>"
  | source => "--src-filepath <SRC_FILEPATH>"

end ValueOption

namespace Switch

/-- The option as usage errors show it. -/
def shown : Switch → String
  | format => "--format"
  | verbose => "--verbose"
  | help => "--help"
  | version => "--version"

end Switch

namespace OptionName

/-- The option with this name behind two dashes. -/
def ofLong? : String → Option OptionName
  | "impl-name" => some (.value .implementation)
  | "src-filepath" => some (.value .source)
  | "format" => some (.switch .format)
  | "verbose" => some (.switch .verbose)
  | "help" => some (.switch .help)
  | "version" => some (.switch .version)
  | _ => none

/-- The option with this letter behind one dash. -/
def ofShort? : Char → Option OptionName
  | 'i' => some (.value .implementation)
  | 's' => some (.value .source)
  | 'f' => some (.switch .format)
  | 'v' => some (.switch .verbose)
  | 'h' => some (.switch .help)
  | 'V' => some (.switch .version)
  | _ => none

/-- The option as usage errors show it. -/
def shown : OptionName → String
  | value option => option.shown
  | switch option => option.shown

end OptionName

/-- Why the program does not go on to run anything. -/
inductive Stop where
  | help
  | version
  /-- An argument that is neither an option nor the value of one. -/
  | unexpectedArgument (argument : String)
  | missingValue (option : ValueOption)
  /-- An option given twice. -/
  | repeated (option : OptionName)
  /-- A value attached to an option that takes none. -/
  | unexpectedValue (value : String) (option : Switch)
deriving DecidableEq

/-- What the arguments ask for. -/
structure Options where
  implementation : Option String
  source : Option String
  format : Bool
  verbose : Bool
deriving DecidableEq

namespace Options

/-- Nothing asked for. -/
def initial : Options where
  implementation := none
  source := none
  format := false
  verbose := false

/-- The name of the implementation that is there. -/
def sharedTree : String :=
  "shared_tree"

/-- The implementation asked for; there is one to take if none is named. -/
def implementationName (options : Options) : String :=
  options.implementation.getD sharedTree

/-- Sets a value option. -/
def put (options : Options) (value : String) :
    ValueOption → Except Stop Options
  | .implementation =>
    if options.implementation.isSome then
      .error (.repeated (.value .implementation))
    else
      .ok { options with implementation := some value }
  | .source =>
    if options.source.isSome then
      .error (.repeated (.value .source))
    else
      .ok { options with source := some value }

/-- Sets a switch. Help and version end the reading. -/
def turnOn (options : Options) : Switch → Except Stop Options
  | .format =>
    if options.format then
      .error (.repeated (.switch .format))
    else
      .ok { options with format := true }
  | .verbose =>
    if options.verbose then
      .error (.repeated (.switch .verbose))
    else
      .ok { options with verbose := true }
  | .help => .error .help
  | .version => .error .version

end Options

/-- One argument by its form. -/
inductive Argument where
  /-- Two dashes alone: no options follow. -/
  | dashes
  | long (name : String) (value : Option String)
  | bundle (letters : List Char)
  | plain (text : String)

namespace Argument

/-- A long form, cut at its first equals sign. -/
def ofLongForm (cs : List Char) : Argument :=
  .long (String.ofList (cs.takeWhile (· != '=')))
    (match cs.dropWhile (· != '=') with
      | [] => none
      | _ :: value => some (String.ofList value))

def ofString (text : String) : Argument :=
  match text.toList with
  | ['-', '-'] => dashes
  | '-' :: '-' :: cs => ofLongForm cs
  | '-' :: c :: cs => bundle (c :: cs)
  | _ => plain text

end Argument

/-- The options read so far, and the value option that was read last and is
not taken up yet, with its value if that was there. -/
structure Intake where
  options : Options
  pending : Option (ValueOption × Option String)

namespace Intake

def start : Intake :=
  ⟨.initial, none⟩

/-- Takes up the pending option. -/
def settle (intake : Intake) : Except Stop Options :=
  match intake.pending with
  | none => .ok intake.options
  | some (option, none) => .error (.missingValue option)
  | some (option, some value) => intake.options.put value option

/-- Reads a value option, perhaps with its value attached. -/
def value
    (intake : Intake) (option : ValueOption) (attached : Option String) :
    Except Stop Intake := do
  let options ← intake.settle
  match attached with
  | some value => return ⟨← options.put value option, none⟩
  | none => return ⟨options, some (option, none)⟩

/-- Reads a switch. -/
def switch (intake : Intake) (option : Switch) : Except Stop Intake := do
  let options ← intake.settle
  return ⟨← options.turnOn option, none⟩

/-- Reads a long form. -/
def long (intake : Intake) (name : String) (attached : Option String) :
    Except Stop Intake :=
  match OptionName.ofLong? name, attached with
  | none, _ => .error (.unexpectedArgument ("--" ++ name))
  | some (.value option), _ => intake.value option attached
  | some (.switch option), some value =>
    .error (.unexpectedValue value option)
  | some (.switch option), none => intake.switch option

/-- What stands behind a value option in a bundle is its value. -/
def attachedValue : List Char → Option String
  | [] => none
  | '=' :: cs => some (String.ofList cs)
  | cs => some (String.ofList cs)

/-- Reads a bundle of short forms. -/
def bundle (intake : Intake) : List Char → Except Stop Intake
  | [] => .ok intake
  | c :: cs =>
    match OptionName.ofShort? c with
    | none => .error (.unexpectedArgument ("-" ++ c.toString))
    | some (.value option) => intake.value option (attachedValue cs)
    | some (.switch option) => do
      (← intake.switch option).bundle cs

/-- Reads an argument that is no option: it can only be a missing value. -/
def plain (intake : Intake) (text : String) : Except Stop Intake :=
  match intake.pending with
  | some (option, none) => .ok ⟨intake.options, some (option, some text)⟩
  | _ => .error (.unexpectedArgument text)

/-- Reads the arguments that are left. -/
def finish (intake : Intake) : List String → Except Stop Options
  | [] => intake.settle
  | argument :: rest =>
    match Argument.ofString argument with
    | .dashes =>
      match rest with
      | [] => intake.settle
      | next :: _ => .error (.unexpectedArgument next)
    | .long name attached => do
      (← intake.long name attached).finish rest
    | .bundle letters => do
      (← intake.bundle letters).finish rest
    | .plain text => do
      (← intake.plain text).finish rest

end Intake

namespace Options

/-- Reads the arguments of the program. -/
def parse (arguments : List String) : Except Stop Options :=
  Intake.start.finish arguments

end Options
end LamApp
