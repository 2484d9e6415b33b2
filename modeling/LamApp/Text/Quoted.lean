import LamApp.Text.Printable

/-!
# Quoted text

A text as traces show it: between double quotes, with backslash forms for
quotes, backslashes and characters that show nothing of their own.
-/

namespace LamApp
namespace Text

/-- A character by its code point in hexadecimal digits. -/
def codeForm (c : Char) : List Char :=
  "\\u\x7b".toList ++ (Nat.toDigits 16 c.toNat ++ "\x7d".toList)

/-- A character within a quoted text. -/
def quoteChar (c : Char) : List Char :=
  if c = '"' || c = '\\' then
    ['\\', c]
  else if c = '\t' then
    ['\\', 't']
  else if c = '\r' then
    ['\\', 'r']
  else if c = '\n' then
    ['\\', 'n']
  else if c = '\x00' then
    ['\\', '0']
  else if isPrintable c then
    [c]
  else
    codeForm c

/-- The quoted form of a text. -/
def quote (text : String) : String :=
  String.ofList ('"' :: (text.toList.flatMap quoteChar ++ ['"']))

/-- A list in square brackets. -/
def bracketed (items : List String) : String :=
  "[" ++ ", ".intercalate items ++ "]"

end Text
end LamApp
