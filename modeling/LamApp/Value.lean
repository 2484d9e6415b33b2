import LamApp.Decimal
import LamApp.Expr.Render
import LamApp.RuntimeError

/-!
# Values and scopes

What programs compute with: numbers, truth values, functions and error
objects. A function is a builtin, perhaps with some of its arguments, or a
`lam` form together with the scope in which it was met. A scope is a chain of
bindings; the innermost binding of a name counts.

Functions have an identity. A stamp, never used twice, tells apart the builtins
and the bindings that are created; a site tells at which place of which tree a
`lam` form stands.
-/

namespace LamApp

/-- A number that is used for one created thing only. -/
abbrev Stamp := Nat

/-- A way down from an expression to one of its parts. -/
inductive Turn where
  | body
  | function
  | argument
deriving DecidableEq

/-- A place in a tree: the stamp of the tree and the way from its root,
last turn first. -/
structure Site where
  tree : Stamp
  turns : List Turn
deriving DecidableEq

namespace Site

/-- The root of a tree. -/
def root (tree : Stamp) : Site :=
  ⟨tree, []⟩

/-- The place of a part. -/
def turn (site : Site) (turn : Turn) : Site :=
  ⟨site.tree, turn :: site.turns⟩

end Site

mutual

/-- A value of the language. -/
inductive Value where
  | error (cause : RuntimeError)
  | bool (value : Bool)
  | number (value : Int)
  | builtin (stamp : Stamp) (function : Builtin)
  /-- A `lam` form and the scope of its free variables. -/
  | closure (site : Site) (parameter : String) (body : Expr) (scope : Scope)

/-- A builtin function with the arguments that it has received. -/
inductive Builtin where
  /-- Addition. -/
  | add
  | addTo (left : Int)
  /-- Choice by a condition; both branches are values. -/
  | cond
  | condThen (condition : Bool)
  | condElse (condition : Bool) (thenValue : Value)
  /-- Strict comparison: is the first number the greater one? -/
  | gt
  | gtOver (left : Int)

/-- A chain of bindings, innermost first. -/
inductive Scope where
  | empty
  | bind (stamp : Stamp) (symbol : String) (value : Value) (outer : Scope)

end

mutual

/-- The written form of a value. -/
def Value.render : Value → String
  | .error cause => cause.message
  | .bool value => Expr.boolText value
  | .number value => Decimal.text value
  | .builtin _ function => "<function " ++ function.name ++ ">"
  | .closure _ parameter _ _ => "<lam " ++ parameter ++ ">"

/-- The name of a builtin, with the arguments that it has received. -/
def Builtin.name : Builtin → String
  | .add => "add"
  | .addTo left => "add " ++ Decimal.text left
  | .cond => "if"
  | .condThen condition => "if " ++ Expr.boolText condition
  | .condElse condition thenValue =>
    "if " ++ Expr.boolText condition ++ " " ++ thenValue.render
  | .gt => "gt"
  | .gtOver left => "gt " ++ Decimal.text left

end

namespace Scope

/-- The innermost value of a symbol. -/
def lookup : Scope → String → Option Value
  | empty, _ => none
  | bind _ symbol value outer, name =>
    if symbol = name then some value else outer.lookup name

/-- The bound symbols from the innermost to the outermost. -/
def symbols : Scope → List String
  | empty => []
  | bind _ symbol _ outer => symbol :: outer.symbols

/-- The stamp of the innermost binding. -/
def stamp? : Scope → Option Stamp
  | empty => none
  | bind stamp _ _ _ => some stamp

/-- Both scopes are empty, or both begin with the same binding. -/
def same (a b : Scope) : Bool :=
  a.stamp? = b.stamp?

end Scope

namespace Value

/-- Equality as a program can tell: numbers, truth values and errors by what
they are, functions by identity. -/
def same : Value → Value → Bool
  | error cause, error cause' => cause = cause'
  | bool value, bool value' => value = value'
  | number value, number value' => value = value'
  | builtin stamp _, builtin stamp' _ => stamp = stamp'
  | closure site parameter _ scope, closure site' parameter' _ scope' =>
    parameter = parameter' && (site = site' && scope.same scope')
  | _, _ => false

end Value
end LamApp
