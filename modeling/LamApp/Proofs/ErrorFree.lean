import LamApp.Proofs.Commands
import LamApp.Proofs.Heredity

/-!
# Errors do not hide inside values

An error object may be stored, bound and passed to a function. An evaluation by
itself never does so: the first error ends it. So error objects get into a
value only from outside, and one that is nowhere inside is never brought in.

Main statement: what evaluates and what is called without error objects inside
comes to values without error objects inside. In a session that neither binds
nor passes an error object, a call has come to a value exactly if its result is
no error object.
-/

namespace LamApp

def Value.isError : Value → Bool
  | .error _ => true
  | _ => false

/-- There is no error object, neither the value itself nor inside it. -/
def Value.ErrorFree (value : Value) : Prop :=
  value.All fun value => value.isError = false

/-- There is no error object in the scope. -/
def Scope.ErrorFree (scope : Scope) : Prop :=
  scope.All fun value => value.isError = false

/-- The outcome is an error, or a value without error objects. -/
def Outcome.ErrorFree (outcome : Outcome) : Prop :=
  ∀ value, outcome = .ok value → value.ErrorFree

namespace Value

theorem heredity_isError :
    Heredity (fun value => value.isError = false) fun _ _ => True where
  number _ := rfl
  bool _ := rfl
  builtin _ _ := rfl
  app _ := ⟨trivial, trivial⟩
  lam _ _ := rfl
  call _ _ _ := trivial

theorem ErrorFree.isError_eq_false
    {value : Value} (h : value.ErrorFree) :
    value.isError = false :=
  h.self

theorem errorFree_of_isFunction_eq_false
    {value : Value} (hfunction : value.isFunction = false)
    (herror : value.isError = false) :
    value.ErrorFree := by
  cases value with
  | builtin stamp function =>
      cases hfunction
  | closure site parameter body scope =>
      cases hfunction
  | _ =>
      exact herror

end Value

theorem Scope.errorFree_standard :
    Scope.standard.ErrorFree :=
  ⟨⟨rfl, trivial⟩, ⟨rfl, trivial⟩, ⟨rfl, trivial⟩, trivial⟩

namespace Outcome

theorem ErrorFree.isOk_iff
    {outcome : Outcome} (h : outcome.ErrorFree) :
    outcome.isOk = true ↔ outcome.toValue.isError = false := by
  cases outcome with
  | ok value =>
      exact ⟨fun _ => (h value rfl).isError_eq_false, fun _ => rfl⟩
  | error cause =>
      simp [Except.isOk, Except.toBool, toValue, Value.isError]

theorem ErrorFree.toValue
    {outcome : Outcome} (h : outcome.ErrorFree)
    (herror : outcome.toValue.isError = false) :
    outcome.toValue.ErrorFree := by
  cases outcome with
  | ok value =>
      exact h value rfl
  | error cause =>
      cases herror

end Outcome

theorem Tree.errorFree_of_evaluate
    {limit : Nat} {tree : Tree} {scope : Scope} {stamp : Stamp}
    {result : Evaluation} (hscope : scope.ErrorFree)
    (h : tree.evaluate limit scope stamp = some result) :
    result.outcome.ErrorFree := fun _ hvalue =>
  Value.heredity_isError.all_of_yields (yields_of_evaluate_eq_some h)
    ⟨trivial, hscope⟩ hvalue

theorem Value.errorFree_of_apply
    {limit : Nat} {function argument : Value} {stamp : Stamp}
    {result : Evaluation} (hfunction : function.ErrorFree)
    (hargument : argument.ErrorFree)
    (h : function.apply limit argument stamp = some result) :
    result.outcome.ErrorFree := fun _ hvalue =>
  heredity_isError.all_of_yields (yields_of_apply_eq_some h)
    ⟨hfunction, hargument⟩ hvalue

namespace Workbench

/-- The command neither binds an error object nor passes one to a function. -/
def PassesNoError (bench : Workbench) : Command → Prop
  | .extend _ _ name _ =>
    ∀ value, bench.values.get? name = some value → value.isError = false
  | .apply _ name _ =>
    ∀ value, bench.values.get? name = some value → value.isError = false
  | _ => True

/-- Error objects are in the registers at most, and never inside what the
registers hold. -/
structure ErrorFree (bench : Workbench) : Prop where
  scopes : ∀ scope, bench.scopes.Holds scope → scope.ErrorFree
  values : ∀ value, bench.values.Holds value → value.isError = false →
    value.ErrorFree

theorem errorFree_start :
    start.ErrorFree where
  scopes := by
    intro scope hscope
    rcases eq_of_holds_start hscope with rfl | rfl
    · trivial
    · exact Scope.errorFree_standard
  values value hvalue := absurd hvalue (Registers.not_holds_empty value)

/-- Storing a value that is an error object or has none inside. -/
theorem ErrorFree.setIf
    {bench : Workbench} (hbench : bench.ErrorFree) {value : Value}
    (hvalue : value.isError = false → value.ErrorFree)
    (target : Option String) :
    ∀ other, (bench.values.setIf target value).Holds other →
      other.isError = false → other.ErrorFree := by
  intro other hother
  rcases Registers.eq_or_holds_of_holds_setIf hother with rfl | hother
  · exact hvalue
  · exact hbench.values other hother

/-- Without error objects passed on, registers stay free of hidden ones, and a
call tells a value from an error. -/
theorem ErrorFree.step
    {limit : Nat} {bench bench' : Workbench} {command : Command}
    {answer : Answer} (hbench : bench.ErrorFree)
    (hpasses : bench.PassesNoError command)
    (hstep : Step limit bench command answer bench') :
    bench'.ErrorFree ∧
      ∀ ok result, answer = .applied ok result →
        (ok = true ↔ result.isError = false) := by
  cases hstep with
  | look hanswer =>
      exact ⟨hbench, fun ok result heq => absurd heq (hanswer ok result)⟩
  | @extend scope symbol value target outer bound houter hbound =>
      refine ⟨⟨fun scope hscope => ?_, hbench.values⟩, by simp⟩
      rcases Registers.eq_or_holds_of_holds_set hscope with rfl | hscope
      · exact ⟨hbench.values bound ⟨value, hbound⟩ (hpasses bound hbound),
          hbench.scopes outer houter⟩
      · exact hbench.scopes scope hscope
  | dropScope =>
      refine ⟨⟨fun scope hscope => ?_, hbench.values⟩, by simp⟩
      exact hbench.scopes scope (Registers.holds_of_holds_erase hscope)
  | plant =>
      exact ⟨⟨hbench.scopes, hbench.values⟩, by simp⟩
  | @lookup _ _ target found value hfound hlookup =>
      have hvalue : value.ErrorFree :=
        (hbench.scopes found hfound).of_lookup hlookup
      exact ⟨⟨hbench.scopes, hbench.setIf (fun _ => hvalue) target⟩, by simp⟩
  | @literal command value target hfunction =>
      exact ⟨⟨hbench.scopes,
        hbench.setIf (Value.errorFree_of_isFunction_eq_false hfunction) target⟩,
        by simp⟩
  | @builtin primitive target =>
      have hfree :
          (Value.builtin bench.stamp primitive.builtin).ErrorFree := by
        refine ⟨rfl, ?_⟩
        cases primitive <;> trivial
      exact ⟨⟨hbench.scopes, hbench.setIf (fun _ => hfree) (some target)⟩,
        by simp⟩
  | @evaluate _ _ target _ scope _ evaluation _ hscope hevaluate =>
      have hfree : scope.ErrorFree := by
        rcases hscope with hscope | rfl
        · exact hbench.scopes scope hscope
        · exact Scope.errorFree_standard
      have houtcome := Tree.errorFree_of_evaluate hfree hevaluate
      exact ⟨⟨hbench.scopes, hbench.setIf houtcome.toValue target⟩, by simp⟩
  | @apply _ name target function argument _ hisFunction hfunction hargument
      happly =>
      have hfree : function.ErrorFree := by
        apply hbench.values function hfunction
        cases function <;> first
          | rfl
          | cases hisFunction
      have houtcome := Value.errorFree_of_apply hfree
        (hbench.values argument ⟨name, hargument⟩ (hpasses argument hargument))
        happly
      refine ⟨⟨hbench.scopes, hbench.setIf houtcome.toValue target⟩, ?_⟩
      rintro ok result ⟨⟩
      exact houtcome.isOk_iff

end Workbench

/-- What is evaluated in a scope without error objects comes to a value without
error objects, or ends in an error, and so does what is called. In a session
that passes no error object on, a call has come to a value exactly if its
result is no error object. -/
theorem errors_do_not_hide :
    (∀ (limit : Nat) (tree : Tree) (scope : Scope) (stamp : Stamp)
        (result : Evaluation),
      scope.ErrorFree → tree.evaluate limit scope stamp = some result →
      (∀ value, result.outcome = .ok value → value.ErrorFree) ∧
      (result.outcome.toValue.isError = true ↔
        ∃ cause, result.outcome = .error cause)) ∧
    (∀ (limit : Nat) (function argument : Value) (stamp : Stamp)
        (result : Evaluation),
      function.ErrorFree → argument.ErrorFree →
      function.apply limit argument stamp = some result →
      ∀ value, result.outcome = .ok value → value.ErrorFree) ∧
    (∀ (limit : Nat) (commands : List Command) (answers : List Answer)
        (bench : Workbench),
      Workbench.start.Along limit Workbench.PassesNoError commands →
      Workbench.start.steps limit commands = .ok (answers, bench) →
      ∀ ok result, .applied ok result ∈ answers →
        (ok = true ↔ result.isError = false)) := by
  refine ⟨?_, ?_, ?_⟩
  · intro limit tree scope stamp result hscope hevaluate
    have houtcome := Tree.errorFree_of_evaluate hscope hevaluate
    refine ⟨houtcome, ?_⟩
    cases hresult : result.outcome with
    | ok value =>
        simp [Outcome.toValue, (houtcome value hresult).isError_eq_false]
    | error cause =>
        simp [Outcome.toValue, Value.isError]
  · intro limit function argument stamp result hfunction hargument happly
    exact Value.errorFree_of_apply hfunction hargument happly
  · intro limit commands answers bench hpasses hsteps ok result hmem
    obtain ⟨-, hanswers⟩ := Workbench.invariant_of_steps
      Workbench.ErrorFree.step hsteps hpasses Workbench.errorFree_start
    exact hanswers _ hmem ok result rfl

/-- A choice gets its arguments one by one, and a wrong one is noticed. The
error object in a register is not passed on. -/
theorem errors_do_not_hide_in_choices :
    let tree : Tree := ⟨6, .app (.var "if") (.bool true)⟩
    let begun : Value := .builtin 7 (.condThen true)
    let chosen : Value := .builtin 8 (.condElse true (.number 1))
    let commands : List Command :=
      [.error (.unknownIdentifier "w") "missing", .builtin .cond "choose",
        .bool true "yes", .number 1 "one",
        .apply "choose" "yes" (some "begun"),
        .apply "begun" "one" (some "chosen"), .apply "chosen" "yes" none,
        .apply "choose" "one" none]
    Scope.standard.ErrorFree ∧
      tree.evaluate 9 .standard 7 = some ⟨.ok begun, 8⟩ ∧
      begun.ErrorFree ∧
      (Value.number 1).ErrorFree ∧
      begun.apply 9 (.number 1) 8 = some ⟨.ok chosen, 9⟩ ∧
      chosen.ErrorFree ∧
      Workbench.start.Along 9 Workbench.PassesNoError commands ∧
      ∃ answers bench,
        Workbench.start.steps 9 commands = .ok (answers, bench) ∧
        ∀ ok result, .applied ok result ∈ answers →
          (ok = true ↔ result.isError = false) := by
  intro tree begun chosen commands
  obtain ⟨hevaluate, happly, hsession⟩ := errors_do_not_hide
  have hbegun : tree.evaluate 9 .standard 7 = some ⟨.ok begun, 8⟩ := rfl
  have hchosen : begun.apply 9 (.number 1) 8 = some ⟨.ok chosen, 9⟩ := rfl
  have hone : (Value.number 1).ErrorFree := rfl
  have hpasses :
      Workbench.start.Along 9 Workbench.PassesNoError commands := by
    iterate 4
      refine ⟨trivial, ?_⟩
      rintro _ _ ⟨⟩
    iterate 3
      refine ⟨by rintro _ ⟨⟩; rfl, ?_⟩
      rintro _ _ ⟨⟩
    exact ⟨by rintro _ ⟨⟩; rfl, fun _ _ _ => trivial⟩
  obtain ⟨answers, bench, hsteps⟩ : ∃ answers bench,
      Workbench.start.steps 9 commands = .ok (answers, bench) :=
    ⟨_, _, rfl⟩
  have hfree : begun.ErrorFree :=
    (hevaluate 9 tree .standard 7 _ Scope.errorFree_standard hbegun).1 _ rfl
  exact ⟨Scope.errorFree_standard, hbegun, hfree, hone, hchosen,
    happly 9 begun _ 8 _ hfree hone hchosen _ rfl, hpasses, answers, bench,
    hsteps, hsession 9 commands answers bench hpasses hsteps⟩

end LamApp
