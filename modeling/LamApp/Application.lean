import LamApp.Dialogue
import LamApp.FileSystem
import LamApp.Options
import LamApp.Program
import LamApp.Text.ControlSequence

/-!
# The program as a whole

What the interpreter does with its arguments: it shows its help or version,
runs one program from a file or from its input, or holds a dialogue if it
stands at a terminal. All that can be seen of it are its exit code, its two outputs and
the history that a dialogue leaves.
-/

namespace LamApp

/-- What is left when the program has ended. -/
structure Exit where
  code : Nat
  stdout : String
  stderr : String

/-- What is said of bytes that are no text. -/
def notText : String :=
  "stream did not contain valid UTF-8"

/-- The trace of a batch run, and its result. -/
structure Report where
  trace : List String
  result : Except RunError String

namespace Report

def unlines (lines : List String) : String :=
  String.join (lines.map (· ++ "\n"))

/-- How an error is shown. -/
def complaint (cause : RunError) : String :=
  "laminterp: " ++ cause.message

def exit (report : Report) : Exit :=
  match report.result with
  | .ok text => ⟨0, text ++ "\n", unlines report.trace⟩
  | .error cause => ⟨1, "", unlines (report.trace ++ [complaint cause])⟩

end Report

namespace Stop

/-- The help text. -/
def helpText : String :=
  Report.unlines
    [ "Config for the interpreter. Instantiate via `InterpreterConfig::parse()`",
      "",
      "Usage: laminterp [OPTIONS]",
      "",
      "Options:",
      "  -i, --impl-name <IMPL_NAME>        Which implementation to use. Must " ++
        "be present inside `SUPPORTED_IMPLS` [default: shared_tree]",
      "  -s, --src-filepath <SRC_FILEPATH>  The input filepath to run on. " ++
        "Without it, an interactive session starts when standard input is a " ++
        "terminal, otherwise standard input is run as one program",
      "  -f, --format                       Print a formatted version of the " ++
        "program instead of evaluating it",
      "  -v, --verbose                      Trace each interpreter stage to " ++
        "standard error",
      "  -h, --help                         Print help",
      "  -V, --version                      Print version" ]

/-- The name and version of the program. -/
def versionText : String :=
  "laminterp 0.1.0\n"

/-- How a usage error is shown. -/
def usageError (message : String) : Exit :=
  ⟨2, "", "error: " ++ message ++ "\n"⟩

/-- How the program ends. Usage errors quote arguments without the control
sequences in them. -/
def exit : Stop → Exit
  | help => ⟨0, helpText, ""⟩
  | version => ⟨0, versionText, ""⟩
  | unexpectedArgument argument =>
    usageError
      ("unexpected argument '" ++ Text.withoutControls argument ++ "' found")
  | missingValue option =>
    usageError
      ("a value is required for '" ++ option.shown ++
        "' but none was supplied")
  | repeated option =>
    usageError
      ("the argument '" ++ option.shown ++ "' cannot be used multiple times")
  | unexpectedValue value option =>
    usageError
      ("unexpected value '" ++ Text.withoutControls value ++ "' for '" ++
        option.shown ++ "' found; no more were expected")

end Stop

namespace Options

/-- There is only one implementation to ask for. -/
def check (options : Options) : Except RunError Unit :=
  if options.implementationName = sharedTree then
    .ok ()
  else
    .error (.unknownImplementation options.implementationName)

/-- The program text in what was read. -/
def sourceText : Except String ByteArray → Except RunError String
  | .error cause => .error (.inputFile cause)
  | .ok bytes =>
    match String.fromUTF8? bytes with
    | some text => .ok text
    | none => .error (.inputFile notText)

/-- Runs one program, given what was read of it or why it cannot be read. -/
def batch
    (limit : Nat) (options : Options) (content : Except String ByteArray) :
    Option Report :=
  match options.check *> sourceText content with
  | .error cause => some ⟨[], .error cause⟩
  | .ok source =>
    (Program.run limit options.format source).map fun run =>
      ⟨if options.verbose then run.trace source else [], run.result⟩

end Options

namespace Application

/-- What stands at the input. -/
inductive Input where
  | piped (bytes : ByteArray)
  /-- A terminal, at which bytes are typed. -/
  | terminal (bytes : ByteArray)

/-- All bytes that come from the input before its first end. -/
def Input.bytes : Input → ByteArray
  | .piped bytes => bytes
  | .terminal bytes =>
    let pieces := Terminal.start.pieces bytes.toList
    ByteArray.mk
      (pieces.takeWhile fun piece => !piece.isEmpty).toArray.flatten

/-- The exit, and the history file that a dialogue leaves. -/
structure Ending where
  exit : Exit
  history : Option String

/-- A dialogue at a terminal. -/
def converse (limit : Nat) (options : Options) (typed : List Typed) :
    Option Ending :=
  match options.check with
  | .error cause => some ⟨(Report.mk [] (.error cause)).exit, none⟩
  | .ok () =>
    ((Dialogue.start options.format .empty).carryOn limit "" typed).map
      fun transcript =>
        match transcript.history with
        | some history => ⟨⟨0, transcript.shown, ""⟩, history.file?⟩
        | none =>
          ⟨⟨1, transcript.shown,
            Report.unlines [Report.complaint (.lineEditor notText)]⟩, none⟩

/-- Runs the program in a directory with the given files, and with no history
from before. -/
def run
    (limit : Nat) (arguments : List String)
    (files : List (String × ByteArray)) (input : Input) :
    Option Ending :=
  match Options.parse arguments with
  | .error stop => some ⟨stop.exit, none⟩
  | .ok options =>
    match options.source, input with
    | some path, _ =>
      let content := (FileSystem.ofFiles files input.bytes).read path
      (options.batch limit (content.mapError FileFault.message)).map
        fun report => ⟨report.exit, none⟩
    | none, .piped bytes =>
      (options.batch limit (.ok bytes)).map fun report => ⟨report.exit, none⟩
    | none, .terminal bytes =>
      converse limit options (Typed.ofBytes bytes.toList)

end Application
end LamApp
