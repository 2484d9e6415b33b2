import LamApp.Builtin

/-!
# Evaluation

Programs are evaluated from left to right: the function, then the argument,
then the application. The first error ends the evaluation.

Evaluation is the run of a machine. Its state holds what is to be done now,
the applications that wait for a function or for an argument, and the next
unused stamp. One step is a total function; a run takes as many steps as it is
allowed and tells whether it came to an end. A larger allowance never changes
an answer.
-/

namespace LamApp

/-- An application that waits for one of its sides. -/
inductive Frame where
  /-- The function is awaited, the argument is still to be evaluated. -/
  | argument (e : Expr) (site : Site) (scope : Scope)
  /-- The argument is awaited. -/
  | call (function : Value)

/-- What is to be done now. -/
inductive Control where
  | eval (e : Expr) (site : Site) (scope : Scope)
  | ret (value : Value)
  | call (function argument : Value)

/-- A state of the machine. -/
structure Machine where
  control : Control
  frames : List Frame
  /-- The next unused stamp. -/
  stamp : Stamp

/-- A finished evaluation, and the next stamp that it left unused. -/
structure Evaluation where
  outcome : Outcome
  stamp : Stamp

/-- What one step leads to. -/
inductive Progress where
  | next (machine : Machine)
  | done (evaluation : Evaluation)

namespace Scope

/-- The value of a variable. A variable bound to an error object raises that
error. -/
def resolve (scope : Scope) (name : String) : Outcome :=
  match scope.lookup name with
  | none => .error (.unknownIdentifier name)
  | some (.error cause) => .error cause
  | some value => .ok value

end Scope

namespace Machine

/-- The state that hands on an outcome, or the end if it is an error. -/
def settle
    (outcome : Outcome) (frames : List Frame) (stamp : Stamp) :
    Progress :=
  match outcome with
  | .ok value => .next ⟨.ret value, frames, stamp⟩
  | .error cause => .done ⟨.error cause, stamp⟩

/-- The evaluation of an expression begins. -/
def enter
    (e : Expr) (site : Site) (scope : Scope)
    (frames : List Frame) (stamp : Stamp) :
    Progress :=
  match e with
  | .error cause => settle (.error (.unreadable cause)) frames stamp
  | .var name => settle (scope.resolve name) frames stamp
  | .number value => settle (.ok (.number value)) frames stamp
  | .bool value => settle (.ok (.bool value)) frames stamp
  | .lam parameter body =>
    settle (.ok (.closure site parameter body scope)) frames stamp
  | .app function argument =>
    .next
      { control := .eval function (site.turn .function) scope
        frames := .argument argument (site.turn .argument) scope :: frames
        stamp := stamp }

/-- The innermost waiting application takes a value. -/
def resume (value : Value) : List Frame → Stamp → Progress
  | [], stamp => .done ⟨.ok value, stamp⟩
  | .argument e site scope :: frames, stamp =>
    .next ⟨.eval e site scope, .call value :: frames, stamp⟩
  | .call function :: frames, stamp =>
    .next ⟨.call function value, frames, stamp⟩

/-- A function takes its argument. The call of a builtin or of a `lam` form
uses up a stamp. -/
def invoke
    (function argument : Value) (frames : List Frame) (stamp : Stamp) :
    Progress :=
  match function with
  | .builtin _ builtin =>
    settle (builtin.apply stamp argument) frames (stamp + 1)
  | .closure site parameter body scope =>
    .next
      { control :=
          .eval body (site.turn .body) (.bind stamp parameter argument scope)
        frames := frames
        stamp := stamp + 1 }
  | .error cause => settle (.error cause) frames stamp
  | value => settle (.error (.invalidFunction value.render)) frames stamp

/-- One step. -/
def advance (machine : Machine) : Progress :=
  match machine.control with
  | .eval e site scope => enter e site scope machine.frames machine.stamp
  | .ret value => resume value machine.frames machine.stamp
  | .call function argument =>
    invoke function argument machine.frames machine.stamp

/-- Runs to the end, if that takes no more steps than allowed. -/
def run : Nat → Machine → Option Evaluation
  | 0, _ => none
  | limit + 1, machine =>
    match machine.advance with
    | .next machine' => run limit machine'
    | .done evaluation => some evaluation

/-- A run that came to an end does so with a larger allowance. -/
theorem run_mono
    {limit limit' : Nat} (hle : limit ≤ limit')
    {machine : Machine} {evaluation : Evaluation}
    (hrun : run limit machine = some evaluation) :
    run limit' machine = some evaluation := by
  induction limit generalizing limit' machine with
  | zero => simp [run] at hrun
  | succ limit ih =>
    cases limit' with
    | zero => omega
    | succ limit' =>
      rw [run] at hrun ⊢
      cases hstep : machine.advance with
      | next machine' =>
        rw [hstep] at hrun
        exact ih (by omega) hrun
      | done evaluation' =>
        rw [hstep] at hrun
        exact hrun

end Machine

/-- A tree with a stamp of its own, so that its places can be told from those
of an equal tree. -/
structure Tree where
  stamp : Stamp
  root : Expr

namespace Tree

/-- Evaluates a tree in a scope, from the given stamp on. -/
def evaluate
    (limit : Nat) (tree : Tree) (scope : Scope) (stamp : Stamp) :
    Option Evaluation :=
  Machine.run limit ⟨.eval tree.root (.root tree.stamp) scope, [], stamp⟩

end Tree

namespace Expr

/-- Evaluates an expression in the standard scope. An error becomes an error
object. -/
def evaluate (limit : Nat) (e : Expr) : Option Value :=
  (Tree.evaluate limit ⟨Stamp.start, e⟩ .standard (Stamp.start + 1)).map
    fun evaluation => evaluation.outcome.toValue

end Expr

namespace Value

/-- Calls a function with an argument, from the given stamp on. -/
def apply
    (limit : Nat) (function argument : Value) (stamp : Stamp) :
    Option Evaluation :=
  Machine.run limit ⟨.call function argument, [], stamp⟩

end Value
end LamApp
