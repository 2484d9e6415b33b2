import LamApp.Expr
import LamApp.Lexeme

/-!
# Drafts

A draft is a program read in part. It records the forms that are still open,
innermost first, and what the grammar calls for next. Feeding a token to a
draft either leads to the next draft, or completes the program, or shows the
first error. A text is read by feeding it token by token, and no token is read
that is not needed.

The grammar has no choice to undo: the first token of an expression tells its
form. `lam` and `app` are keywords only there; as a parameter they are names
like any other.
-/

namespace LamApp

/-- A form that has begun and has not ended. -/
inductive OpenForm where
  /-- A function of which the body is to come. -/
  | body (parameter : String)
  /-- An application of which the function is to come. -/
  | function
  /-- An application of which the argument is to come. -/
  | argument (function : Expr)
  /-- An opening parenthesis. -/
  | paren
deriving DecidableEq

/-- A program read in part. -/
inductive Draft where
  /-- An expression is due. -/
  | expression (forms : List OpenForm)
  /-- The parameter of a function is due. -/
  | parameter (forms : List OpenForm)
  /-- The closing parenthesis behind an expression is due. -/
  | closing (inner : Expr) (forms : List OpenForm)
  /-- The program is whole and the end of the text is due. -/
  | whole (program : Expr)
deriving DecidableEq

/-- What a token makes of a draft. -/
inductive Verdict where
  | next (draft : Draft)
  | accept (program : Expr)
  | reject (cause : SyntaxError)
deriving DecidableEq

/-- The outcome of reading a text, and how many of its tokens were read. -/
structure Reading where
  result : Except SyntaxError Expr
  count : Nat

namespace Draft

/-- The draft before any text. -/
def empty : Draft :=
  expression []

/-- What the grammar calls for. -/
def expected : Draft → Category
  | expression _ => .expression
  | parameter _ => .identifier
  | closing _ _ => .rightParen
  | whole _ => .endOfInput

/-- Puts a whole expression into the innermost open form, which may end that
form and so fill the next. -/
def fill (e : Expr) : List OpenForm → Draft
  | [] => whole e
  | .body name :: forms => fill (.lam name e) forms
  | .function :: forms => expression (.argument e :: forms)
  | .argument f :: forms => fill (.app f e) forms
  | .paren :: forms => closing e forms

/-- The first token of an expression. -/
def begin (forms : List OpenForm) : Token → Verdict
  | .leftParen => .next (expression (.paren :: forms))
  | .identifier name =>
    if name = "lam" then
      .next (parameter forms)
    else if name = "app" then
      .next (expression (.function :: forms))
    else
      .next (fill (.var name) forms)
  | .number numeral =>
    match Decimal.value? numeral.toList with
    | some value => .next (fill (.number value) forms)
    | none => .reject (.badNumber numeral)
  | .bool value => .next (fill (.bool value) forms)
  | .error cause => .reject (.lexical cause.message)
  | token => .reject (.unexpected .expression token.kind)

/-- Reads one more token. -/
def feed : Draft → Token → Verdict
  | expression forms, token => begin forms token
  | parameter forms, .identifier name =>
    .next (expression (.body name :: forms))
  | closing inner forms, .rightParen => .next (fill inner forms)
  | whole program, .endOfInput => .accept program
  | draft, token => .reject (.unexpected draft.expected token.kind)

/-- The end of the text never leads to a further draft. -/
theorem feed_endOfInput_ne_next
    (draft draft' : Draft) :
    draft.feed .endOfInput ≠ .next draft' := by
  cases draft <;> simp [feed, begin]

/-- Reads a text to the end of the program or to the first error, given how
many tokens were read before. -/
def read (draft : Draft) (cs : List Char) (count : Nat) : Reading :=
  let lexeme := Lexeme.first cs
  match h : draft.feed lexeme.token with
  | .next draft' =>
    have : lexeme.rest.length < cs.length :=
      Lexeme.first_rest_length_lt fun hend =>
        feed_endOfInput_ne_next draft draft' (hend ▸ h)
    read draft' lexeme.rest (count + 1)
  | .accept program => ⟨.ok program, count + 1⟩
  | .reject cause => ⟨.error cause, count + 1⟩
termination_by cs.length

end Draft

namespace Expr

/-- Reads a program. -/
def parse? (source : String) : Except SyntaxError Expr :=
  (Draft.empty.read source.toList 0).result

/-- The tree of a program text; an error takes the place of a tree. -/
def parse (source : String) : Expr :=
  match parse? source with
  | .ok program => program
  | .error cause => .error cause

end Expr
end LamApp
