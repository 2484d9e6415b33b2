import LamApp.Proofs.Evaluation
import LamApp.Workbench
import Mathlib.Logic.Function.Basic

/-!
# Evaluation by substitution

A second account of what programs compute, without scopes and closures. The
application of a `lam` form puts the argument, a value, in the place of the
parameter; a `lam` form below that binds the same name again is left as it is.
The builtins are constants that collect their arguments.

Only closed programs are evaluated, so no free name of an argument can be
caught by a binder on the way.

Main statement: several substitutions one after the other are the one
substitution of all names at once.
-/

namespace LamApp

/-- A program in which values may stand in the place of variables. -/
inductive Term where
  | error (cause : RuntimeError)
  | var (name : String)
  | number (value : Int)
  | bool (value : Bool)
  | lam (parameter : String) (body : Term)
  | app (function argument : Term)
  | constant (primitive : Primitive)
  /-- A constant that has received the argument and waits for more. -/
  | partly (function argument : Term)

namespace Primitive

/-- The name under which programs find the builtin. -/
def name : Primitive → String
  | add => "add"
  | cond => "if"
  | gt => "gt"

end Primitive

namespace Term

/-- Puts a term in the place of a variable, except below a `lam` form that
binds the name again. -/
def subst : Term → String → Term → Term
  | .error cause, _, _ => .error cause
  | .var other, name, term => if other = name then term else .var other
  | .number value, _, _ => .number value
  | .bool value, _, _ => .bool value
  | .lam parameter body, name, term =>
    if parameter = name then .lam parameter body
    else .lam parameter (body.subst name term)
  | .app function argument, name, term =>
    .app (function.subst name term) (argument.subst name term)
  | .constant primitive, _, _ => .constant primitive
  | .partly function argument, name, term =>
    .partly (function.subst name term) (argument.subst name term)

mutual

/-- The written form of a value. Other terms have none. -/
def render : Term → String
  | .error cause => cause.message
  | .var _ => ""
  | .number value => Decimal.text value
  | .bool value => Expr.boolText value
  | .lam parameter _ => "<lam " ++ parameter ++ ">"
  | .app _ _ => ""
  | .constant primitive => "<function " ++ primitive.name ++ ">"
  | .partly function argument =>
    "<function " ++ (function.name ++ " " ++ argument.render) ++ ">"

/-- The name of a constant, with the arguments that it has received. -/
def name : Term → String
  | .constant primitive => primitive.name
  | .partly function argument => function.name ++ " " ++ argument.render
  | _ => ""

end

/-- Is there nothing to evaluate? -/
def isValue : Term → Bool
  | .number _ | .bool _ | .lam _ _ | .constant _ | .partly _ _ => true
  | .error _ | .var _ | .app _ _ => false

def isLam : Term → Bool
  | .lam _ _ => true
  | _ => false

/-- Is it a constant, perhaps with some of its arguments? -/
def isConstant : Term → Bool
  | .constant _ => true
  | .partly function _ => function.isConstant
  | _ => false

/-- The number that a constant was given. -/
def number? (constant : String) : Term → Except RuntimeError Int
  | .number value => .ok value
  | term => .error (.notNumber constant term.render)

/-- The truth value that a constant was given. -/
def bool? (constant : String) : Term → Except RuntimeError Bool
  | .bool value => .ok value
  | term => .error (.notBool constant term.render)

/-- A constant takes its next argument. All that is not a constant, and no
`lam` form either, is no function. -/
def take : Term → Term → Except RuntimeError Term
  | .constant .add, argument =>
    (argument.number? "add").map fun _ => .partly (.constant .add) argument
  | .partly (.constant .add) (.number left), argument =>
    (argument.number? "add").map fun right => .number (left + right)
  | .constant .gt, argument =>
    (argument.number? "gt").map fun _ => .partly (.constant .gt) argument
  | .partly (.constant .gt) (.number left), argument =>
    (argument.number? "gt").map fun right => .bool (left > right)
  | .constant .cond, argument =>
    (argument.bool? "if").map fun _ => .partly (.constant .cond) argument
  | .partly (.constant .cond) (.bool condition), argument =>
    .ok (.partly (.partly (.constant .cond) (.bool condition)) argument)
  | .partly (.partly (.constant .cond) (.bool condition)) thenTerm,
      argument =>
    .ok (if condition then thenTerm else argument)
  | function, _ => .error (.invalidFunction function.render)

/-- What a term comes to: a value, or the first error on the way from left to
right. -/
inductive Reduces : Term → Except RuntimeError Term → Prop
  | error (cause : RuntimeError) : Reduces (.error cause) (.error cause)
  | var (name : String) :
      Reduces (.var name) (.error (.unknownIdentifier name))
  | value {term : Term} : term.isValue = true → Reduces term (.ok term)
  | functionError {function argument : Term} {cause : RuntimeError} :
      Reduces function (.error cause) →
      Reduces (.app function argument) (.error cause)
  | argumentError {function argument value : Term} {cause : RuntimeError} :
      Reduces function (.ok value) →
      Reduces argument (.error cause) →
      Reduces (.app function argument) (.error cause)
  | beta {function argument body value : Term} {parameter : String}
      {result : Except RuntimeError Term} :
      Reduces function (.ok (.lam parameter body)) →
      Reduces argument (.ok value) →
      Reduces (body.subst parameter value) result →
      Reduces (.app function argument) result
  | take {function argument constant value : Term} :
      Reduces function (.ok constant) →
      Reduces argument (.ok value) →
      constant.isLam = false →
      Reduces (.app function argument) (constant.take value)

/-- A term comes to one result at most. -/
theorem Reduces.unique
    {term : Term} {result result' : Except RuntimeError Term}
    (h : term.Reduces result) (h' : term.Reduces result') :
    result = result' := by
  induction h generalizing result' with
  | error cause =>
      cases h' with
      | error =>
          rfl
      | value hvalue =>
          cases hvalue
  | var name =>
      cases h' with
      | var =>
          rfl
      | value hvalue =>
          cases hvalue
  | value hvalue =>
      cases h' with
      | value =>
          rfl
      | _ =>
          cases hvalue
  | functionError _ ih =>
      cases h' with
      | value hvalue =>
          cases hvalue
      | functionError hf =>
          exact ih hf
      | argumentError hf =>
          cases ih hf
      | beta hf =>
          cases ih hf
      | take hf =>
          cases ih hf
  | argumentError _ _ ihf iha =>
      cases h' with
      | value hvalue =>
          cases hvalue
      | functionError hf =>
          cases ihf hf
      | argumentError _ ha =>
          exact iha ha
      | beta _ ha =>
          cases iha ha
      | take _ ha =>
          cases iha ha
  | beta _ _ _ ihf iha ihb =>
      cases h' with
      | value hvalue =>
          cases hvalue
      | functionError hf =>
          cases ihf hf
      | argumentError _ ha =>
          cases iha ha
      | beta hf ha hb =>
          cases ihf hf
          cases iha ha
          exact ihb hb
      | take hf _ hlam =>
          cases ihf hf
          cases hlam
  | take _ _ hlam ihf iha =>
      cases h' with
      | value hvalue =>
          cases hvalue
      | functionError hf =>
          cases ihf hf
      | argumentError _ ha =>
          cases iha ha
      | beta hf =>
          cases ihf hf
          cases hlam
      | take hf ha =>
          cases ihf hf
          cases iha ha
          rfl

/-- No substitution changes the term. -/
def Closed (term : Term) : Prop :=
  ∀ name value, term.subst name value = term

end Term

namespace Expr

/-- A variable of the expression that no `lam` form binds. -/
def Free (name : String) : Expr → Prop
  | .error _ | .number _ | .bool _ => False
  | .var other => other = name
  | .lam parameter body => parameter ≠ name ∧ body.Free name
  | .app function argument => function.Free name ∨ argument.Free name

/-- The expression as a term. A place that could not be read is an error. -/
def toTerm : Expr → Term
  | .error cause => .error (.unreadable cause)
  | .var name => .var name
  | .number value => .number value
  | .bool value => .bool value
  | .lam parameter body => .lam parameter body.toTerm
  | .app function argument => .app function.toTerm argument.toTerm

/-- The program of an expression: the names of the builtins stand for the
constants. -/
def program (e : Expr) : Term :=
  ((e.toTerm.subst "add" (.constant .add)).subst "if" (.constant .cond)).subst
    "gt" (.constant .gt)

/-- Puts terms in the places of all variables for which there is one. A
`lam` form hides the term for its parameter. -/
def close (terms : String → Option Term) : Expr → Term
  | .error cause => .error (.unreadable cause)
  | .var name => (terms name).getD (.var name)
  | .number value => .number value
  | .bool value => .bool value
  | .lam parameter body =>
    .lam parameter (body.close (Function.update terms parameter none))
  | .app function argument =>
    .app (function.close terms) (argument.close terms)

end Expr

/-- The terms for variables are closed. -/
def AllClosed (terms : String → Option Term) : Prop :=
  ∀ name term, terms name = some term → term.Closed

theorem allClosed_none : AllClosed fun _ => none := by
  intro name term h
  cases h

theorem AllClosed.update
    {terms : String → Option Term} (h : AllClosed terms)
    (name : String) {content : Option Term}
    (hcontent : ∀ term, content = some term → term.Closed) :
    AllClosed (Function.update terms name content) := by
  intro other term hterm
  by_cases hname : other = name
  · rw [hname, Function.update_self] at hterm
    exact hcontent term hterm
  · rw [Function.update_of_ne hname] at hterm
    exact h other term hterm

theorem AllClosed.hide
    {terms : String → Option Term} (h : AllClosed terms) (name : String) :
    AllClosed (Function.update terms name none) := by
  exact h.update name (by simp)

theorem AllClosed.bind
    {terms : String → Option Term} (h : AllClosed terms) (name : String)
    {term : Term} (hterm : term.Closed) :
    AllClosed (Function.update terms name (some term)) := by
  exact h.update name (by simpa using hterm)

namespace Expr

theorem close_none (e : Expr) :
    e.close (fun _ => none) = e.toTerm := by
  induction e with
  | lam parameter body ih =>
      rw [close, toTerm, Function.update_eq_self, ih]
  | app function argument ihf iha =>
      rw [close, toTerm, ihf, iha]
  | _ =>
      rfl

/-- One more substitution is one more term for a variable. -/
theorem subst_close
    {terms : String → Option Term} (hclosed : AllClosed terms)
    {name : String} (hname : terms name = none) (term : Term) (e : Expr) :
    (e.close terms).subst name term =
      e.close (Function.update terms name (some term)) := by
  induction e generalizing terms with
  | error cause =>
      rfl
  | number value =>
      rfl
  | bool value =>
      rfl
  | var other =>
      rw [close, close]
      by_cases hother : other = name
      · rw [hother, hname, Function.update_self, Option.getD_none,
          Option.getD_some, Term.subst, if_pos rfl]
      · rw [Function.update_of_ne hother]
        cases hterm : terms other with
        | none =>
            rw [Option.getD_none, Term.subst, if_neg hother]
        | some given =>
            exact hclosed other given hterm name term
  | lam parameter body ih =>
      -- Either the form hides the new term as well, or it hides another one
      -- and the order does not matter.
      rw [close, close, Term.subst]
      by_cases hparameter : parameter = name
      · rw [if_pos hparameter, hparameter, Function.update_idem]
      · rw [if_neg hparameter, Function.update_comm (Ne.symm hparameter),
          ih (hclosed.hide parameter)]
        rw [Function.update_of_ne (Ne.symm hparameter)]
        exact hname
  | app function argument ihf iha =>
      rw [close, close, Term.subst, ihf hclosed hname, iha hclosed hname]

/-- A variable for which there is a term, and one that is not free, are not
left to substitute. -/
theorem subst_close_eq_self
    {terms : String → Option Term} (hclosed : AllClosed terms)
    {name : String} {e : Expr} (hname : e.Free name → (terms name).isSome)
    (term : Term) :
    (e.close terms).subst name term = e.close terms := by
  induction e generalizing terms with
  | error cause =>
      rfl
  | number value =>
      rfl
  | bool value =>
      rfl
  | var other =>
      rw [close]
      cases hterm : terms other with
      | none =>
          have hother : other ≠ name := by
            rintro rfl
            simpa [hterm] using hname rfl
          rw [Option.getD_none, Term.subst, if_neg hother]
      | some given =>
          exact hclosed other given hterm name term
  | lam parameter body ih =>
      rw [close, Term.subst]
      split
      next =>
          rfl
      next hparameter =>
          rw [ih (hclosed.hide parameter)]
          intro hfree
          rw [Function.update_of_ne (Ne.symm hparameter)]
          exact hname ⟨hparameter, hfree⟩
  | app function argument ihf iha =>
      rw [close, Term.subst,
        ihf hclosed fun hfree => hname (.inl hfree),
        iha hclosed fun hfree => hname (.inr hfree)]

theorem closed_close
    {terms : String → Option Term} (hclosed : AllClosed terms)
    {e : Expr} (hfree : ∀ name, e.Free name → (terms name).isSome) :
    (e.close terms).Closed := by
  intro name term
  exact subst_close_eq_self hclosed (hfree name) term

end Expr
end LamApp
