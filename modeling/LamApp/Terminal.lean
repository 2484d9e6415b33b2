/-!
# The terminal

A terminal hands on what is typed line by line. Until its end is typed, a line
can be edited: a key takes back the last byte, another the last word, another
the whole line. An end of input hands on what there is of a line, and with
nothing typed since the last line it hands on nothing at all, which a reader
takes for the end of its input.
-/

namespace LamApp

/-- What a typed byte means to the terminal. -/
inductive Key where
  | plain
  | lineEnd
  | endOfInput
  /-- Takes back the last byte. -/
  | erase
  | eraseWord
  | eraseLine
  /-- The next byte stands for itself. -/
  | literal
  /-- A signal to the reader; the line is lost. -/
  | signal
  /-- Stops or resumes the output of the terminal. -/
  | flow
deriving DecidableEq

/-- The keys are those that terminals begin with. What is typed is not shown,
so there is no key that shows a line again. -/
def Key.ofByte (byte : UInt8) : Key :=
  if byte = 0x0a || byte = 0x0d then
    lineEnd
  else if byte = 0x04 then
    endOfInput
  else if byte = 0x7f then
    erase
  else if byte = 0x17 then
    eraseWord
  else if byte = 0x15 then
    eraseLine
  else if byte = 0x16 then
    literal
  else if byte = 0x03 || byte = 0x1a || byte = 0x1c then
    signal
  else if byte = 0x11 || byte = 0x13 then
    flow
  else
    plain

/-- The byte that ends a line. -/
def lineFeedByte : UInt8 :=
  0x0a

/-- A terminal with the line that is being typed. -/
structure Terminal where
  line : Array UInt8
  /-- The next byte stands for itself. -/
  literal : Bool

namespace Terminal

/-- How many bytes a line can hold; what is typed beyond them is lost. -/
def capacity : Nat :=
  4095

def start : Terminal :=
  ⟨#[], false⟩

/-- A byte of a word: a letter or digit, as the terminal knows them, or a low
line. -/
def isWordByte (byte : UInt8) : Bool :=
  (0x30 ≤ byte && byte ≤ 0x39) || (0x41 ≤ byte && byte ≤ 0x5a) ||
    (0x61 ≤ byte && byte ≤ 0x7a) || byte = 0x5f ||
    (0xc0 ≤ byte && byte != 0xd7 && byte != 0xf7)

/-- The line without its last word. -/
def withoutWord (line : Array UInt8) : Array UInt8 :=
  (line.popWhile fun byte => !isWordByte byte).popWhile isWordByte

/-- The line with one more byte, if there is room. -/
def put (terminal : Terminal) (byte : UInt8) : Terminal :=
  if terminal.line.size < capacity then
    ⟨terminal.line.push byte, false⟩
  else
    ⟨terminal.line, false⟩

/-- Types a byte; the second part is what the terminal hands on. -/
def type (terminal : Terminal) (byte : UInt8) :
    Terminal × Option (Array UInt8) :=
  if terminal.literal then
    (terminal.put byte, none)
  else
    match Key.ofByte byte with
    | .plain => (terminal.put byte, none)
    | .lineEnd => (start, some (terminal.line.push lineFeedByte))
    | .endOfInput => (start, some terminal.line)
    | .erase => (⟨terminal.line.pop, false⟩, none)
    | .eraseWord => (⟨withoutWord terminal.line, false⟩, none)
    | .eraseLine => (start, none)
    | .literal => (⟨terminal.line, true⟩, none)
    | .signal => (start, none)
    | .flow => (terminal, none)

/-- The pieces that the terminal hands on while bytes are typed. -/
def pieces : Terminal → List UInt8 → List (Array UInt8)
  | _, [] => []
  | terminal, byte :: bytes =>
    match terminal.type byte with
    | (terminal', some piece) => piece :: pieces terminal' bytes
    | (terminal', none) => pieces terminal' bytes

end Terminal

/-- What a reader of lines gets from a terminal. -/
inductive Typed where
  /-- A line as it was read, with its line end if it has one. -/
  | line (bytes : Array UInt8)
  | endOfInput

namespace Typed

/-- Cuts bytes behind each line end. The second part is the beginning of a
line, to which the first line has been begun. -/
def cut (begun : Array UInt8) : List UInt8 → List Typed × Array UInt8
  | [] => ([], begun)
  | byte :: bytes =>
    if byte = lineFeedByte then
      let (lines, rest) := cut #[] bytes
      (.line (begun.push byte) :: lines, rest)
    else
      cut (begun.push byte) bytes

/-- Reads lines from the pieces that a terminal hands on. An empty piece ends
the input, or a line that was begun. -/
def ofPieces (begun : Array UInt8) : List (Array UInt8) → List Typed
  | [] => []
  | piece :: pieces =>
    if piece.isEmpty then
      (if begun.isEmpty then .endOfInput else .line begun) :: ofPieces #[] pieces
    else
      let (lines, rest) := cut begun piece.toList
      lines ++ ofPieces rest pieces

/-- Reads lines from a terminal at which bytes are typed. -/
def ofBytes (bytes : List UInt8) : List Typed :=
  ofPieces #[] (Terminal.start.pieces bytes)

end Typed
end LamApp
