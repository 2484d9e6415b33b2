import LamApp.Decimal
import LamApp.Expr

/-!
# Writing expressions

Two written forms of an expression. The one-line form puts parentheses around a
function that is applied on the spot and around an argument with parts. The
layout form spreads over lines instead and needs no parentheses: the parts of
an expression stand below it, four columns further in.

Both forms are written in front of a given text, so that the text of a whole
tree is made in one pass.
-/

namespace LamApp
namespace Expr

def boolText (value : Bool) : String :=
  if value then "true" else "false"

/-- Puts parentheses around a written piece where they are needed. -/
def bracket
    (needed : Bool)
    (piece : List Char → List Char)
    (rest : List Char) :
    List Char :=
  if needed then
    '(' :: piece (')' :: rest)
  else
    piece rest

/-- Writes an expression on one line, in front of a text. -/
def inline : Expr → List Char → List Char
  | error cause, rest => cause.message.toList ++ rest
  | var name, rest => name.toList ++ rest
  | number value, rest => (Decimal.text value).toList ++ rest
  | bool value, rest => (boolText value).toList ++ rest
  | lam parameter body, rest =>
    "lam ".toList ++ (parameter.toList ++ ' ' :: inline body rest)
  | app function argument, rest =>
    "app ".toList ++
      bracket function.isLam (inline function)
        (' ' :: bracket (!argument.isLeaf) (inline argument) rest)

/-- The blanks in front of a line of the layout form. -/
def margin (depth : Nat) : List Char :=
  List.replicate (4 * depth) ' '

/-- Writes an expression over lines, in front of a text. A body without parts
stays on the line of its parameter; a function and an argument without parts
stay on the line of their application. -/
def layout (depth : Nat) : Expr → List Char → List Char
  | lam parameter body, rest =>
    margin depth ++ ("lam ".toList ++ (parameter.toList ++
      if body.isLeaf then
        ' ' :: inline body rest
      else
        '\n' :: layout (depth + 1) body rest))
  | app function argument, rest =>
    margin depth ++ ("app".toList ++
      if function.isLeaf && argument.isLeaf then
        ' ' :: inline function (' ' :: inline argument rest)
      else
        '\n' :: layout (depth + 1) function
          ('\n' :: layout (depth + 1) argument rest))
  | e, rest => margin depth ++ inline e rest

/-- The expression on one line. -/
def render (e : Expr) : String :=
  String.ofList (inline e [])

/-- The expression over lines. -/
def pretty (e : Expr) : String :=
  String.ofList (layout 0 e [])

end Expr
end LamApp
