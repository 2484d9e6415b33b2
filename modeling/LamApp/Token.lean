/-!
# Tokens

The words of the language: numbers, `true` and `false`, identifiers and the
two parentheses. The end of the text is a token as well, and so is a piece of
text that is no word at all; such a token keeps the cause.
-/

namespace LamApp

/-- Why a piece of text is not a token of the language. -/
inductive LexicalError where
  /-- A run that starts like a number and does not end as one. -/
  | badNumber (run : String)
  /-- A run that starts like an identifier and does not end as one. -/
  | badIdentifier (run : String)
  /-- A character that starts no token. -/
  | illegalCharacter (c : Char)
deriving DecidableEq

namespace LexicalError

/-- The message shown to the user; it quotes the text at fault. -/
def message : LexicalError → String
  | .badNumber run => "bad number syntax: '" ++ run ++ "'"
  | .badIdentifier run => "bad identifier syntax: '" ++ run ++ "'"
  | .illegalCharacter c => "illegal character: '" ++ c.toString ++ "'"

end LexicalError

/-- One token, with what it says. -/
inductive Token where
  | error (cause : LexicalError)
  | endOfInput
  /-- A number in the digits in which it was written. -/
  | number (numeral : String)
  | bool (value : Bool)
  | identifier (name : String)
  | leftParen
  | rightParen
deriving DecidableEq

/-- The class of a token, without its text. -/
inductive TokenKind where
  | error
  | endOfInput
  | number
  | bool
  | identifier
  | leftParen
  | rightParen
deriving DecidableEq

namespace TokenKind

/-- The class as messages call it. -/
def text : TokenKind → String
  | error => "error"
  | endOfInput => "EOF"
  | number => "number"
  | bool => "bool"
  | identifier => "identifier"
  | leftParen => "'('"
  | rightParen => "')'"

/-- The class as traces of the token stream call it. -/
def label : TokenKind → String
  | error => "Error"
  | endOfInput => "EndOfInput"
  | number => "Number"
  | bool => "Bool"
  | identifier => "Identifier"
  | leftParen => "LeftParen"
  | rightParen => "RightParen"

end TokenKind

namespace Token

def kind : Token → TokenKind
  | error _ => .error
  | endOfInput => .endOfInput
  | number _ => .number
  | bool _ => .bool
  | identifier _ => .identifier
  | leftParen => .leftParen
  | rightParen => .rightParen

/-- The text of the token; for an error its message, for the end nothing. -/
def text : Token → String
  | error cause => cause.message
  | endOfInput => ""
  | number numeral => numeral
  | bool true => "true"
  | bool false => "false"
  | identifier name => name
  | leftParen => "("
  | rightParen => ")"

/-- A word of letters and digits: a truth value or an identifier. -/
def ofWord (word : String) : Token :=
  if word = "true" then
    .bool true
  else if word = "false" then
    .bool false
  else
    .identifier word

/-- Nothing is read after an error or after the end. -/
def isLast : Token → Bool
  | error _ => true
  | endOfInput => true
  | _ => false

/-- The text of a word is the word. -/
@[simp] theorem text_ofWord
    (word : String) :
    (ofWord word).text = word := by
  unfold ofWord
  split
  · simp_all [text]
  · split <;> simp_all [text]

@[simp] theorem isLast_ofWord
    (word : String) :
    (ofWord word).isLast = false := by
  unfold ofWord
  split
  · rfl
  · split <;> rfl

end Token
end LamApp
