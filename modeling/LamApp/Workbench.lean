import LamApp.Draft
import LamApp.Machine
import LamApp.Registers
import LamApp.Text.Quoted

/-!
# The workbench

A place to build scopes, values and trees step by step, to evaluate trees in
any scope and to call functions directly. Scopes, values and trees are kept in
registers. Whatever a command creates takes its stamp from the workbench, so
that identities stay apart over the whole session.

A direct call does not look at its argument: an error object may be passed to
a function, although no evaluation does so by itself.
-/

namespace LamApp

/-- The builtins that can be made afresh. -/
inductive Primitive where
  | add
  | cond
  | gt
deriving DecidableEq

namespace Primitive

/-- The builtin before its first argument. -/
def builtin : Primitive → Builtin
  | add => .add
  | cond => .cond
  | gt => .gt

end Primitive

/-- Where a tree for evaluation comes from. -/
inductive Material where
  | source (text : String)
  | register (name : String)

/-- One command. Where a target is optional, the result is stored only if it
is given. -/
inductive Command where
  | extend (scope symbol value target : String)
  | symbols (scope : String)
  | lookup (scope symbol : String) (target : Option String)
  | sameScope (first second : String)
  | dropScope (scope : String)
  | parse (source target : String)
  | tree (root : Expr) (target : String)
  /-- Without a scope the standard one is taken. -/
  | evaluate
      (material : Material) (scope : Option String) (target : Option String)
  | number (value : Int) (target : String)
  | bool (value : Bool) (target : String)
  | error (cause : RuntimeError) (target : String)
  | builtin (primitive : Primitive) (target : String)
  | apply (function argument : String) (target : Option String)
  | sameValue (first second : String)
  | sameTree (first second : String)
  | inspect (value : String)

/-- The answer to a command. -/
inductive Answer where
  | symbols (names : List String)
  | scope (names : List String) (shown : String)
  | value (value : Value)
  | unbound
  | flag (value : Bool)
  | display (text : String)
  /-- A direct call: did it come to a value, and what is the result? -/
  | applied (ok : Bool) (result : Value)
  | notFunction
  | inspected (value : Value) (shown : String)

/-- Why a command has no answer. -/
inductive Refusal where
  | emptyRegister (name : String)
  | unfinished
deriving DecidableEq

/-- The registers, and the next unused stamp. -/
structure Workbench where
  scopes : Registers Scope
  values : Registers Value
  trees : Registers Tree
  stamp : Stamp

namespace Workbench

/-- The workbench at the start: it has the standard scope and the empty one. -/
def start : Workbench where
  scopes := (Registers.empty.set "default" Scope.standard).set "empty" .empty
  values := .empty
  trees := .empty
  stamp := Stamp.start

/-- What a register holds; an empty one is refused. -/
def fetch {α : Type} (registers : Registers α) (name : String) :
    Except Refusal α :=
  match registers.get? name with
  | some content => .ok content
  | none => .error (.emptyRegister name)

/-- The scope to evaluate in. -/
def scopeOf (bench : Workbench) : Option String → Except Refusal Scope
  | some name => fetch bench.scopes name
  | none => .ok .standard

/-- The tree to evaluate, and the next unused stamp: a source text makes a new
tree each time. -/
def treeOf (bench : Workbench) : Material → Except Refusal (Tree × Stamp)
  | .source text => .ok (⟨bench.stamp, Expr.parse text⟩, bench.stamp + 1)
  | .register name =>
    (fetch bench.trees name).map fun tree => (tree, bench.stamp)

/-- The evaluation, unless it is still running. -/
def finished : Option Evaluation → Except Refusal Evaluation
  | some evaluation => .ok evaluation
  | none => .error .unfinished

/-- Stores a value; the answer is the value. -/
def keep (bench : Workbench) (value : Value) (target : Option String) :
    Answer × Workbench :=
  (.value value,
    { bench with values := bench.values.setIf target value })

/-- Plants a tree; the answer is its one-line form. -/
def plant (bench : Workbench) (root : Expr) (target : String) :
    Answer × Workbench :=
  (.display root.render,
    { bench with
      trees := bench.trees.set target ⟨bench.stamp, root⟩
      stamp := bench.stamp + 1 })

/-- Calls a function directly and stores the result. -/
def callDirectly
    (limit : Nat) (bench : Workbench)
    (function argument : Value) (target : Option String) :
    Except Refusal (Answer × Workbench) := do
  match function with
  | .builtin _ _ | .closure _ _ _ _ =>
    let evaluation ← finished (function.apply limit argument bench.stamp)
    let result := evaluation.outcome.toValue
    return (.applied evaluation.outcome.isOk result,
      { bench with
        values := bench.values.setIf target result
        stamp := evaluation.stamp })
  | _ => return (.notFunction, bench)

/-- Carries out a command. -/
def step (limit : Nat) (bench : Workbench) :
    Command → Except Refusal (Answer × Workbench)
  | .extend scope symbol value target => do
    let outer ← fetch bench.scopes scope
    let value ← fetch bench.values value
    let inner := Scope.bind bench.stamp symbol value outer
    return (.symbols inner.symbols,
      { bench with
        scopes := bench.scopes.set target inner
        stamp := bench.stamp + 1 })
  | .symbols scope => do
    let names := (← fetch bench.scopes scope).symbols
    return (.scope names (Text.bracketed (names.map Text.quote)), bench)
  | .lookup scope symbol target => do
    match (← fetch bench.scopes scope).lookup symbol with
    | some value => return bench.keep value target
    | none => return (.unbound, bench)
  | .sameScope first second => do
    let first ← fetch bench.scopes first
    let second ← fetch bench.scopes second
    return (.flag (first.same second), bench)
  | .dropScope scope =>
    return (.flag (bench.scopes.get? scope).isSome,
      { bench with scopes := bench.scopes.erase scope })
  | .parse source target => return bench.plant (Expr.parse source) target
  | .tree root target => return bench.plant root target
  | .evaluate material scope target => do
    let (tree, stamp) ← bench.treeOf material
    let scope ← bench.scopeOf scope
    let evaluation ← finished (tree.evaluate limit scope stamp)
    return { bench with stamp := evaluation.stamp }.keep
      evaluation.outcome.toValue target
  | .number value target => return bench.keep (.number value) (some target)
  | .bool value target => return bench.keep (.bool value) (some target)
  | .error cause target => return bench.keep (.error cause) (some target)
  | .builtin primitive target =>
    return { bench with stamp := bench.stamp + 1 }.keep
      (.builtin bench.stamp primitive.builtin) (some target)
  | .apply function argument target => do
    let function ← fetch bench.values function
    let argument ← fetch bench.values argument
    bench.callDirectly limit function argument target
  | .sameValue first second => do
    let first ← fetch bench.values first
    let second ← fetch bench.values second
    return (.flag (first.same second), bench)
  | .sameTree first second => do
    let first ← fetch bench.trees first
    let second ← fetch bench.trees second
    return (.flag (first.root = second.root), bench)
  | .inspect value => do
    let value ← fetch bench.values value
    return (.inspected value ("Object(" ++ value.render ++ ")"), bench)

/-- Carries out commands one after the other; the answers come in order. -/
def steps (limit : Nat) :
    Workbench → List Command → Except Refusal (List Answer × Workbench)
  | bench, [] => return ([], bench)
  | bench, command :: commands => do
    let (answer, bench) ← bench.step limit command
    let (answers, bench) ← steps limit bench commands
    return (answer :: answers, bench)

end Workbench
end LamApp
