import LamApp.Value

/-!
# Builtin functions

Addition, choice and comparison. A builtin takes its arguments one at a time
and checks each when it is supplied. As long as arguments are missing, the
answer is a new function that remembers those it has.
-/

namespace LamApp

/-- What an evaluation comes to: a value or an error. -/
abbrev Outcome := Except RuntimeError Value

namespace Outcome

/-- An error becomes an error object. -/
def toValue : Outcome → Value
  | .ok value => value
  | .error cause => .error cause

end Outcome

namespace Value

/-- The number that a builtin was given. -/
def number? (builtin : String) : Value → Except RuntimeError Int
  | number value => .ok value
  | value => .error (.notNumber builtin value.render)

/-- The truth value that a builtin was given. -/
def bool? (builtin : String) : Value → Except RuntimeError Bool
  | bool value => .ok value
  | value => .error (.notBool builtin value.render)

end Value

namespace Builtin

/-- Supplies one argument. The stamp is for the function that may come out. -/
def apply (stamp : Stamp) : Builtin → Value → Outcome
  | add, value =>
    (value.number? "add").map fun left => .builtin stamp (addTo left)
  | addTo left, value =>
    (value.number? "add").map fun right => .number (left + right)
  | cond, value =>
    (value.bool? "if").map fun condition =>
      .builtin stamp (condThen condition)
  | condThen condition, value => .ok (.builtin stamp (condElse condition value))
  | condElse condition thenValue, value =>
    .ok (if condition then thenValue else value)
  | gt, value =>
    (value.number? "gt").map fun left => .builtin stamp (gtOver left)
  | gtOver left, value =>
    (value.number? "gt").map fun right => .bool (left > right)

end Builtin

namespace Scope

/-- The scope in which every program starts. -/
def standard : Scope :=
  .bind 5 "gt" (.builtin 4 .gt)
    (.bind 3 "if" (.builtin 2 .cond)
      (.bind 1 "add" (.builtin 0 .add) .empty))

end Scope

namespace Stamp

/-- The first stamp that the standard scope leaves unused. -/
def start : Stamp :=
  6

end Stamp
end LamApp
