import LamApp.Application

/-!
# The command line

The outer layer of the program: it reads arguments, files and lines, and
writes what the library answers.
-/

namespace LamApp
namespace CommandLine

/-- How many steps an evaluation may take: more than a run ever lives to. -/
def limit : Nat :=
  4611686018427387904

/-- The number of a system error; some sources give its negative. -/
def errorNumber (code : UInt32) : Nat :=
  min code.toNat (-code).toNat

/-- A system error in the system's words, with its number. -/
def systemWords : IO.Error → String
  | .noFileOrDirectory _ code details
  | .permissionDenied _ code details
  | .inappropriateType _ code details
  | .invalidArgument _ code details
  | .resourceExhausted _ code details
  | .noSuchThing _ code details
  | .otherError code details =>
    details.capitalize ++ " (os error " ++ toString (errorNumber code) ++ ")"
  | error => error.toString

/-- Writes the outputs of a program that has ended. -/
def leave (exit : Exit) : IO UInt32 := do
  IO.eprint exit.stderr
  IO.print exit.stdout
  return exit.code.toUInt32

/-- Reads a stream to its end. -/
partial def readToEnd (stream : IO.FS.Stream) (read : ByteArray) :
    IO ByteArray := do
  let chunk ← stream.read 65536
  if chunk.isEmpty then
    return read
  else
    readToEnd stream (read ++ chunk)

/-- The content of a file, or why it cannot be had. -/
def readFile (path : String) : IO (Except String ByteArray) := do
  try
    return .ok (← IO.FS.readBinFile path)
  catch error =>
    return .error (systemWords error)

/-- Runs one program. -/
def runBatch (options : Options) (content : Except String ByteArray) :
    IO UInt32 := do
  match options.batch limit content with
  | some report => leave report.exit
  | none => return 1

/-- Where the history of dialogues is kept. -/
def historyPath : IO (Option String) := do
  return (← IO.getEnv "HOME").map (· ++ "/.laminterp_history")

/-- The history of earlier dialogues; there may be none. -/
def loadHistory : IO History := do
  match ← historyPath with
  | none => return .empty
  | some path =>
    match ← readFile path with
    | .error _ => return .empty
    | .ok bytes => return .ofFile ((String.fromUTF8? bytes).getD "")

/-- Keeps the history for later dialogues, as far as that is possible. -/
def saveHistory (history : History) : IO Unit := do
  match ← historyPath, history.file? with
  | some path, some content =>
    try
      IO.FS.writeFile path content
    catch _ =>
      return ()
  | _, _ => return ()

/-- Holds a dialogue until its end. -/
partial def converse (stdin : IO.FS.Stream) (dialogue : Dialogue) :
    IO UInt32 := do
  IO.print dialogue.repl.prompt
  (← IO.getStdout).flush
  let read ←
    try
      pure (some (← stdin.getLine))
    catch _ =>
      pure none
  match read with
  | none =>
    leave (Report.mk [] (.error (.lineEditor notText))).exit
  | some "" =>
    match dialogue.takeEnd with
    | some dialogue' => converse stdin dialogue'
    | none =>
      saveHistory dialogue.history
      return 0
  | some line =>
    match dialogue.takeLine limit line with
    | some (text, dialogue') =>
      IO.print text
      converse stdin dialogue'
    | none => return 1

/-- Runs the program. -/
def run (arguments : List String) : IO UInt32 := do
  match Options.parse arguments with
  | .error stop => leave stop.exit
  | .ok options =>
    let stdin ← IO.getStdin
    match options.check, options.source, ← stdin.isTty with
    | .error cause, _, _ => leave (Report.mk [] (.error cause)).exit
    | .ok (), some path, _ => runBatch options (← readFile path)
    | .ok (), none, false =>
      runBatch options (.ok (← readToEnd stdin .empty))
    | .ok (), none, true =>
      converse stdin (.start options.format (← loadHistory))

end CommandLine
end LamApp

def main (arguments : List String) : IO UInt32 :=
  LamApp.CommandLine.run arguments
