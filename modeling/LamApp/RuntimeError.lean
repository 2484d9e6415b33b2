import LamApp.Expr

/-!
# Runtime errors

What can go wrong while a program runs. Errors that concern a value keep the
written form of that value.
-/

namespace LamApp

/-- Why an evaluation has no value. -/
inductive RuntimeError where
  /-- A variable that nothing binds. -/
  | unknownIdentifier (name : String)
  /-- An application of a value that is no function. -/
  | invalidFunction (value : String)
  /-- An argument that a builtin wanted to be a number. -/
  | notNumber (builtin : String) (value : String)
  /-- An argument that a builtin wanted to be a truth value. -/
  | notBool (builtin : String) (value : String)
  /-- The evaluation came to a place that could not be read. -/
  | unreadable (cause : SyntaxError)
deriving DecidableEq

namespace RuntimeError

/-- The message shown to the user. -/
def message : RuntimeError → String
  | unknownIdentifier name => "unknown identifier: '" ++ name ++ "'"
  | invalidFunction value => "apply: invalid function: '" ++ value ++ "'"
  | notNumber builtin value =>
    builtin ++ ": not a number: '" ++ value ++ "'"
  | notBool builtin value => builtin ++ ": not a bool: '" ++ value ++ "'"
  | unreadable cause => "parse error: " ++ cause.message

end RuntimeError
end LamApp
