import LamApp.History
import LamApp.Repl
import LamApp.Terminal
import LamApp.Text.Erasure

/-!
# Dialogues at a terminal

A dialogue shows a prompt, reads a line, shows what the session answers, and
so on until the input ends at a fresh prompt. An end of input in the middle of
a program only drops that program. All that is typed goes into the history.
-/

namespace LamApp

/-- The state between two reads. -/
structure Dialogue where
  repl : Repl
  history : History

namespace Dialogue

def start (format : Bool) (history : History) : Dialogue :=
  ⟨.start format, history⟩

/-- Takes a line as it was read, with its line end and backspaces. The answer
is the text to show, which may be empty. -/
def takeLine (limit : Nat) (dialogue : Dialogue) (read : String) :
    Option (String × Dialogue) :=
  let line := Text.ofTyped read
  (dialogue.repl.feed limit line).map fun
    | (.unfinished, repl) => ("", ⟨repl, dialogue.history.add line⟩)
    | (.finished text, repl) => (text ++ "\n", ⟨repl, dialogue.history.add line⟩)

/-- Takes an end of input: the dialogue ends, or drops a program. -/
def takeEnd (dialogue : Dialogue) : Option Dialogue :=
  if dialogue.repl.isEmpty then
    none
  else
    some { dialogue with repl := dialogue.repl.reset }

/-- All that a dialogue showed, and the history it left. A line that is no
text breaks it off without a history. -/
structure Transcript where
  shown : String
  history : Option History

/-- Carries on a dialogue with what is typed, behind what was shown before. -/
def carryOn (limit : Nat) :
    Dialogue → String → List Typed → Option Transcript
  | dialogue, shown, [] =>
    some ⟨shown ++ dialogue.repl.prompt, dialogue.history⟩
  | dialogue, shown, .endOfInput :: typed =>
    match dialogue.takeEnd with
    | none => some ⟨shown ++ dialogue.repl.prompt, dialogue.history⟩
    | some dialogue' =>
      carryOn limit dialogue' (shown ++ dialogue.repl.prompt) typed
  | dialogue, shown, .line bytes :: typed =>
    match String.fromUTF8? (ByteArray.mk bytes) with
    | none => some ⟨shown ++ dialogue.repl.prompt, none⟩
    | some line =>
      match dialogue.takeLine limit line with
      | none => none
      | some (text, dialogue') =>
        carryOn limit dialogue' (shown ++ dialogue.repl.prompt ++ text) typed

end Dialogue
end LamApp
