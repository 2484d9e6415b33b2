import LamApp.Draft
import LamApp.Machine
import LamApp.Text.Quoted

/-!
# Programs

A program text is parsed and then evaluated in the standard scope, or else
written out anew in its layout form. A run tells how far that went; its result
is the text to show or the error to report, and its trace tells the stages.
-/

namespace LamApp

/-- Why there is no text to show. -/
inductive RunError where
  /-- No implementation of the language has this name. -/
  | unknownImplementation (name : String)
  /-- The program text cannot be had; the cause is in the system's words. -/
  | inputFile (cause : String)
  /-- A typed line cannot be had. -/
  | lineEditor (cause : String)
  | unparsed (cause : SyntaxError)
  | runtime (cause : RuntimeError)
deriving DecidableEq

namespace RunError

/-- The message shown to the user. -/
def message : RunError → String
  | unknownImplementation name =>
    "interpreter configuration error: Unrecognized implementation name " ++ name
  | inputFile cause => "input file error: " ++ cause
  | lineEditor cause => "line editor error: " ++ cause
  | unparsed cause => "parse error: " ++ cause.message
  | runtime cause => "runtime error: " ++ cause.message

end RunError

/-- What became of a program text. -/
inductive Run where
  | unparsed (cause : SyntaxError)
  | formatted (program : Expr)
  | evaluated (program : Expr) (value : Value)

namespace Run

/-- The text to show, or the error to report. -/
def result : Run → Except RunError String
  | unparsed cause => .error (.unparsed cause)
  | formatted program => .ok program.pretty
  | evaluated _ (.error cause) => .error (.runtime cause)
  | evaluated _ value => .ok value.render

/-- A token as the trace shows it. -/
def traceToken (token : Token) : String :=
  "Token \x7b token_class: " ++ token.kind.label ++
    ", token_text: " ++ Text.quote token.text ++ " \x7d"

/-- The lines of the trace, one for each stage that was reached. -/
def trace (source : String) (run : Run) : List String :=
  let read :=
    [ "Source: " ++ Text.quote source,
      "Tokens: " ++ Text.bracketed ((Token.ofString source).map traceToken) ]
  match run with
  | unparsed _ => read
  | formatted program => read ++ ["Parsed program: " ++ program.render]
  | evaluated program value =>
    read ++
      [ "Parsed program: " ++ program.render,
        "Result: " ++ value.render ]

end Run

namespace Program

/-- Runs a program text: formats it if so asked and evaluates it otherwise. -/
def run (limit : Nat) (format : Bool) (source : String) : Option Run :=
  match Expr.parse? source with
  | .error cause => some (.unparsed cause)
  | .ok program =>
    if format then
      some (.formatted program)
    else
      (program.evaluate limit).map (.evaluated program)

end Program
end LamApp
