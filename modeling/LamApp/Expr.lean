import LamApp.Token

/-!
# Expressions

The trees that programs denote: variables, numbers, truth values, one-parameter
functions (`lam`) and applications (`app`). A syntax error may stand in the
place of an expression, so that a text which does not parse has a tree too.
-/

namespace LamApp

/-- What the grammar calls for at some place of a text. -/
inductive Category where
  | expression
  | rightParen
  | number
  | bool
  | identifier
  | endOfInput
deriving DecidableEq

namespace Category

/-- The category as messages call it. -/
def text : Category → String
  | expression => "expression"
  | rightParen => "')'"
  | number => "number"
  | bool => "bool"
  | identifier => "identifier"
  | endOfInput => "EOF"

end Category

/-- Why a text is not a program. -/
inductive SyntaxError where
  /-- A token that does not fit what the grammar calls for. -/
  | unexpected (expected : Category) (found : TokenKind)
  /-- A malformed token where an expression is called for. -/
  | lexical (message : String)
  /-- A number whose digits cannot be read. -/
  | badNumber (numeral : String)
deriving DecidableEq

namespace SyntaxError

/-- The message shown to the user. -/
def message : SyntaxError → String
  | unexpected expected found =>
    "expecting " ++ expected.text ++ "; got " ++ found.text
  | lexical message => message
  | badNumber numeral => "bad number: '" ++ numeral ++ "'"

/-- The text ended too early: more of it could still make a program. -/
def isIncomplete : SyntaxError → Bool
  | unexpected _ found => found = .endOfInput
  | _ => false

end SyntaxError

/-- An expression. -/
inductive Expr where
  /-- The place of an expression that could not be read. -/
  | error (cause : SyntaxError)
  | var (name : String)
  | number (value : Int)
  | bool (value : Bool)
  /-- The function of one parameter with the given body. -/
  | lam (parameter : String) (body : Expr)
  /-- A function applied to an argument. -/
  | app (function argument : Expr)
deriving DecidableEq

namespace Expr

/-- Variables, numbers and truth values have no parts. -/
def isLeaf : Expr → Bool
  | var _ => true
  | number _ => true
  | bool _ => true
  | _ => false

def isLam : Expr → Bool
  | lam _ _ => true
  | _ => false

/-- The expression is an error at a text that ended too early. -/
def isIncomplete : Expr → Bool
  | error cause => cause.isIncomplete
  | _ => false

end Expr
end LamApp
