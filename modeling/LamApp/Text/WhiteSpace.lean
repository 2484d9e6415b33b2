import LamApp.Text.CodeTable

/-!
# White space

The white space of Unicode. Lines that are typed in are freed of it at both
ends. Within a program only four of these characters separate tokens.
-/

namespace LamApp
namespace Text

/-- The code points with the white space property. -/
def whiteSpace : CodeTable :=
  [ (0x0009, 0x000d), (0x0020, 0x0020), (0x0085, 0x0085), (0x00a0, 0x00a0),
    (0x1680, 0x1680), (0x2000, 0x200a), (0x2028, 0x2029), (0x202f, 0x202f),
    (0x205f, 0x205f), (0x3000, 0x3000) ]

def isWhiteSpace (c : Char) : Bool :=
  whiteSpace.holds c

/-- The characters without the white space at both ends. -/
def trimChars (cs : List Char) : List Char :=
  ((cs.dropWhile isWhiteSpace).reverse.dropWhile isWhiteSpace).reverse

/-- The text without the white space at both ends. -/
def trim (text : String) : String :=
  String.ofList (trimChars text.toList)

end Text
end LamApp
