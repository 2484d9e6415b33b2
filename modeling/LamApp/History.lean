import LamApp.Text.WhiteSpace

/-!
# The history of typed lines

The lines of a dialogue are kept for the next one: no blank line, no line twice
in a row, and no more than a hundred. In the history file each line stands on
a line of its own under a header.
-/

namespace LamApp

/-- The lines that were typed, oldest first. -/
structure History where
  entries : List String
deriving DecidableEq

namespace History

def empty : History :=
  ⟨[]⟩

/-- How many lines are kept. -/
def capacity : Nat :=
  100

/-- Adds a line as it was typed. -/
def add (history : History) (line : String) : History :=
  if (Text.trim line).isEmpty || history.entries.getLast? = some line then
    history
  else
    let entries := history.entries ++ [line]
    ⟨entries.drop (entries.length - capacity)⟩

/-- The line above the entries of a history file. -/
def header : String :=
  "#V2"

/-- A line as the file holds it: a backslash is written twice, a line end as
a letter behind a backslash. -/
def encode (line : String) : String :=
  String.ofList (line.toList.flatMap fun c =>
    if c = '\\' then
      ['\\', '\\']
    else if c = '\n' then
      ['\\', 'n']
    else
      [c])

def decodeChars : List Char → List Char
  | '\\' :: 'n' :: cs => '\n' :: decodeChars cs
  | '\\' :: c :: cs => c :: decodeChars cs
  | c :: cs => c :: decodeChars cs
  | [] => []

/-- A line as it was typed. -/
def decode (line : String) : String :=
  String.ofList (decodeChars line.toList)

/-- The history file; there is none for an empty history. -/
def file? (history : History) : Option String :=
  if history.entries.isEmpty then
    none
  else
    some (String.join
      ((header :: history.entries.map encode).map (· ++ "\n")))

/-- The history that a file holds; a file without the header holds none. -/
def ofFile (content : String) : History :=
  match content.splitOn "\n" with
  | first :: lines =>
    if first = header then
      (lines.map decode).foldl add empty
    else
      empty
  | [] => empty

end History
end LamApp
