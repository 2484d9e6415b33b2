import LamApp.Draft
import LamApp.Machine
import LamApp.Text.WhiteSpace

/-!
# Programs entered line by line

A session collects lines until they make a program, or can no longer make one.
It then answers, and starts anew. White space at both ends of a line is
dropped, and a blank line adds nothing.
-/

namespace LamApp

/-- An interactive session: the lines of the program that is being entered,
each with its line end. -/
structure Repl where
  format : Bool
  pending : String

namespace Repl

/-- What a session answers to a line. -/
inductive Reply where
  /-- More lines are needed. -/
  | unfinished
  /-- The program is whole, or can never be; this is to be shown. -/
  | finished (text : String)
deriving DecidableEq

/-- A session in which nothing has been entered. -/
def start (format : Bool) : Repl :=
  ⟨format, ""⟩

def isEmpty (repl : Repl) : Bool :=
  repl.pending.isEmpty

/-- Drops the program that is being entered. -/
def reset (repl : Repl) : Repl :=
  start repl.format

/-- What stands in front of the next line. -/
def prompt (repl : Repl) : String :=
  if repl.isEmpty then ">> " else ".. "

/-- The session with one more line entered. -/
def enter (repl : Repl) (line : String) : Repl :=
  let text := Text.trim line
  if text.isEmpty then
    repl
  else
    ⟨repl.format, repl.pending ++ text ++ "\n"⟩

/-- What the program entered so far calls for. -/
def reply (limit : Nat) (repl : Repl) : Option Reply :=
  match Expr.parse? repl.pending with
  | .error cause =>
    if cause.isIncomplete then
      some .unfinished
    else
      some (.finished ("parse error: " ++ cause.message))
  | .ok program =>
    if repl.format then
      some (.finished program.pretty)
    else
      (program.evaluate limit).map fun value => .finished value.render

/-- Enters a line. An answer other than a call for more ends the program. -/
def feed (limit : Nat) (repl : Repl) (line : String) : Option (Reply × Repl) :=
  let entered := repl.enter line
  (entered.reply limit).map fun
    | .unfinished => (.unfinished, entered)
    | .finished text => (.finished text, entered.reset)

end Repl
end LamApp
