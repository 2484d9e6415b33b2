import LamApp.Proofs.Evaluation
import Mathlib.Logic.Relation

/-!
# Hereditary properties of values

A value holds other values: a closure those of its scope, a choice that waits
for its last argument the branch that it has received. A property is hereditary
for a value if it holds for the value and for all values inside it.

Main statements: if literals, builtins and closures have the property where
they come into being, then everything that evaluation computes has it
hereditarily, and so has everything that the machine holds on the way. What a
closure needs may depend on the expression and the scope that it comes from, so
a property of expressions in scopes goes along.
-/

namespace LamApp

mutual

/-- The value and all values inside it have the property. -/
def Value.All (P : Value → Prop) : Value → Prop
  | .builtin stamp function => P (.builtin stamp function) ∧ function.All P
  | .closure site parameter body scope =>
    P (.closure site parameter body scope) ∧ scope.All P
  | value => P value

/-- All values inside the arguments of a builtin have the property. -/
def Builtin.All (P : Value → Prop) : Builtin → Prop
  | .condElse _ thenValue => thenValue.All P
  | _ => True

/-- All values that are bound, and all inside them, have the property. -/
def Scope.All (P : Value → Prop) : Scope → Prop
  | .empty => True
  | .bind _ _ value outer => value.All P ∧ outer.All P

end

/-- The value itself has the property. -/
theorem Value.All.self
    {P : Value → Prop} {value : Value} (h : value.All P) :
    P value := by
  cases value with
  | builtin stamp function =>
      exact h.1
  | closure site parameter body scope =>
      exact h.1
  | _ =>
      exact h

namespace Scope

theorem All.of_lookup
    {P : Value → Prop} {scope : Scope} (h : scope.All P)
    {name : String} {value : Value}
    (hlookup : scope.lookup name = some value) :
    value.All P := by
  match scope, h with
  | .bind stamp symbol bound outer, ⟨hbound, houter⟩ =>
      rw [lookup] at hlookup
      split at hlookup
      · cases hlookup
        exact hbound
      · exact houter.of_lookup hlookup

theorem lookup_of_resolve
    {scope : Scope} {name : String} {value : Value}
    (h : scope.resolve name = .ok value) :
    scope.lookup name = some value := by
  rw [resolve] at h
  split at h
  · cases h
  · cases h
  next hlookup =>
      cases h
      exact hlookup

end Scope

namespace Outcome

theorem exists_of_map_eq_ok
    {α : Type} {given : Except RuntimeError α} {create : α → Value}
    {value : Value} (h : given.map create = .ok value) :
    ∃ content, given = .ok content ∧ create content = value := by
  cases given with
  | error cause =>
      cases h
  | ok content =>
      cases h
      exact ⟨content, rfl, rfl⟩

theorem eq_error_of_map_eq_error
    {α : Type} {given : Except RuntimeError α} {create : α → Value}
    {cause : RuntimeError} (h : given.map create = .error cause) :
    given = .error cause := by
  cases given with
  | error cause' =>
      cases h
      rfl
  | ok content =>
      cases h

end Outcome

/-- A property of values, and a property of expressions in scopes, such that
what is created has the one where the other holds. -/
structure Heredity
    (P : Value → Prop) (E : Expr → Scope → Prop) : Prop where
  number : ∀ value, P (.number value)
  bool : ∀ value, P (.bool value)
  builtin : ∀ stamp function, P (.builtin stamp function)
  app : ∀ {f a scope}, E (.app f a) scope → E f scope ∧ E a scope
  lam : ∀ {parameter body scope} site,
    E (.lam parameter body) scope → P (.closure site parameter body scope)
  call : ∀ {site parameter body scope} stamp argument,
    P (.closure site parameter body scope) →
    E body (.bind stamp parameter argument scope)

namespace Heredity

variable {P : Value → Prop} {E : Expr → Scope → Prop}

theorem all_builtin
    (heredity : Heredity P E) (stamp : Stamp)
    {function : Builtin} (h : function.All P) :
    (Value.builtin stamp function).All P := by
  exact ⟨heredity.builtin stamp function, h⟩

/-- A builtin answers with a literal, with a builtin, or with one of the values
that it has received. -/
theorem all_apply
    (heredity : Heredity P E)
    {function : Builtin} {argument : Value}
    (hfunction : function.All P) (hargument : argument.All P)
    (stamp : Stamp) {value : Value}
    (happly : function.apply stamp argument = .ok value) :
    value.All P := by
  cases function with
  | condThen condition =>
      cases happly
      exact heredity.all_builtin stamp hargument
  | condElse condition thenValue =>
      cases happly
      cases condition with
      | false =>
          exact hargument
      | true =>
          exact hfunction
  | add =>
      obtain ⟨left, -, rfl⟩ := Outcome.exists_of_map_eq_ok happly
      exact heredity.all_builtin stamp trivial
  | cond =>
      obtain ⟨condition, -, rfl⟩ := Outcome.exists_of_map_eq_ok happly
      exact heredity.all_builtin stamp trivial
  | gt =>
      obtain ⟨left, -, rfl⟩ := Outcome.exists_of_map_eq_ok happly
      exact heredity.all_builtin stamp trivial
  | addTo left =>
      obtain ⟨right, -, rfl⟩ := Outcome.exists_of_map_eq_ok happly
      exact heredity.number (left + right)
  | gtOver left =>
      obtain ⟨right, -, rfl⟩ := Outcome.exists_of_map_eq_ok happly
      exact heredity.bool _

/-- What a control may begin with. -/
def Admits (P : Value → Prop) (E : Expr → Scope → Prop) : Control → Prop
  | .eval e _ scope => E e scope ∧ scope.All P
  | .ret value => value.All P
  | .call function argument => function.All P ∧ argument.All P

/-- What evaluation computes has the property hereditarily. -/
theorem all_of_yields
    (heredity : Heredity P E)
    {control : Control} {stamp : Stamp} {result : Evaluation}
    (hyields : control.Yields stamp result)
    (hadmits : Admits P E control)
    {value : Value} (hvalue : result.outcome = .ok value) :
    value.All P := by
  induction hyields generalizing value with
  | ret value' stamp =>
      cases hvalue
      exact hadmits
  | var name site scope stamp =>
      exact hadmits.2.of_lookup (Scope.lookup_of_resolve hvalue)
  | number value' site scope stamp =>
      cases hvalue
      exact heredity.number value'
  | bool value' site scope stamp =>
      cases hvalue
      exact heredity.bool value'
  | lam parameter body site scope stamp =>
      cases hvalue
      exact ⟨heredity.lam site hadmits.1, hadmits.2⟩
  | app _ _ _ ihf iha ihc =>
      obtain ⟨he, hscope⟩ := hadmits
      obtain ⟨hf, ha⟩ := heredity.app he
      exact ihc ⟨ihf ⟨hf, hscope⟩ rfl, iha ⟨ha, hscope⟩ rfl⟩ hvalue
  | callBuiltin created builtin argument stamp =>
      obtain ⟨hfunction, hargument⟩ := hadmits
      exact heredity.all_apply hfunction.2 hargument stamp hvalue
  | callClosure _ ih =>
      obtain ⟨⟨hclosure, hscope⟩, hargument⟩ := hadmits
      exact ih ⟨heredity.call _ _ hclosure, hargument, hscope⟩ hvalue
  | _ =>
      cases hvalue

end Heredity

/-! ## The states of the machine -/

namespace Machine

/-- The machine takes one step from the one state to the other. -/
def Steps (machine machine' : Machine) : Prop :=
  machine.advance = .next machine'

/-- The machine comes from the one state to the other. -/
def Leads : Machine → Machine → Prop :=
  Relation.ReflTransGen Steps

/-- Only a value is handed on. -/
theorem eq_of_settle_eq_next
    {outcome : Outcome} {frames : List Frame} {stamp : Stamp}
    {machine : Machine} (h : settle outcome frames stamp = .next machine) :
    ∃ value, outcome = .ok value ∧ machine = ⟨.ret value, frames, stamp⟩ := by
  cases outcome with
  | ok value =>
      cases h
      exact ⟨value, rfl, rfl⟩
  | error cause =>
      cases h

end Machine

namespace Heredity

variable {P : Value → Prop} {E : Expr → Scope → Prop}

/-- What a waiting application may hold. -/
def AdmitsFrame (P : Value → Prop) (E : Expr → Scope → Prop) : Frame → Prop
  | .argument e _ scope => E e scope ∧ scope.All P
  | .call function => function.All P

/-- What a state of the machine may hold. -/
structure AdmitsMachine
    (P : Value → Prop) (E : Expr → Scope → Prop) (machine : Machine) :
    Prop where
  control : Admits P E machine.control
  frames : ∀ frame ∈ machine.frames, AdmitsFrame P E frame

theorem AdmitsMachine.of_settle
    {outcome : Outcome} {frames : List Frame} {stamp : Stamp}
    {machine : Machine}
    (h : Machine.settle outcome frames stamp = .next machine)
    (hframes : ∀ frame ∈ frames, AdmitsFrame P E frame)
    (houtcome : ∀ value, outcome = .ok value → value.All P) :
    AdmitsMachine P E machine := by
  obtain ⟨value, hvalue, rfl⟩ := Machine.eq_of_settle_eq_next h
  exact ⟨houtcome value hvalue, hframes⟩

theorem AdmitsMachine.of_enter
    (heredity : Heredity P E)
    {e : Expr} {site : Site} {scope : Scope}
    {frames : List Frame} {stamp : Stamp} {machine : Machine}
    (h : Machine.enter e site scope frames stamp = .next machine)
    (hcontrol : E e scope ∧ scope.All P)
    (hframes : ∀ frame ∈ frames, AdmitsFrame P E frame) :
    AdmitsMachine P E machine := by
  obtain ⟨he, hscope⟩ := hcontrol
  cases e with
  | error cause =>
      cases h
  | var name =>
      exact .of_settle h hframes fun value hvalue =>
        hscope.of_lookup (Scope.lookup_of_resolve hvalue)
  | number value =>
      cases h
      exact ⟨heredity.number value, hframes⟩
  | bool value =>
      cases h
      exact ⟨heredity.bool value, hframes⟩
  | lam parameter body =>
      cases h
      exact ⟨⟨heredity.lam site he, hscope⟩, hframes⟩
  | app f a =>
      obtain ⟨hf, ha⟩ := heredity.app he
      cases h
      exact ⟨⟨hf, hscope⟩,
        List.forall_mem_cons.mpr ⟨⟨ha, hscope⟩, hframes⟩⟩

theorem AdmitsMachine.of_resume
    {value : Value} {frames : List Frame} {stamp : Stamp} {machine : Machine}
    (h : Machine.resume value frames stamp = .next machine)
    (hvalue : value.All P)
    (hframes : ∀ frame ∈ frames, AdmitsFrame P E frame) :
    AdmitsMachine P E machine := by
  cases frames with
  | nil =>
      cases h
  | cons frame frames =>
      obtain ⟨hframe, hrest⟩ := List.forall_mem_cons.mp hframes
      cases frame with
      | argument e site scope =>
          cases h
          exact ⟨hframe, List.forall_mem_cons.mpr ⟨hvalue, hrest⟩⟩
      | call function =>
          cases h
          exact ⟨⟨hframe, hvalue⟩, hrest⟩

theorem AdmitsMachine.of_invoke
    (heredity : Heredity P E)
    {function argument : Value} {frames : List Frame} {stamp : Stamp}
    {machine : Machine}
    (h : Machine.invoke function argument frames stamp = .next machine)
    (hcontrol : function.All P ∧ argument.All P)
    (hframes : ∀ frame ∈ frames, AdmitsFrame P E frame) :
    AdmitsMachine P E machine := by
  obtain ⟨hfunction, hargument⟩ := hcontrol
  cases function with
  | builtin created builtin =>
      exact .of_settle h hframes fun value =>
        heredity.all_apply hfunction.2 hargument stamp
  | closure site parameter body scope =>
      obtain ⟨hclosure, hscope⟩ := hfunction
      cases h
      exact ⟨⟨heredity.call stamp argument hclosure, hargument, hscope⟩,
        hframes⟩
  | _ =>
      cases h

/-- One step of the machine keeps the property of all that it holds. -/
theorem AdmitsMachine.step
    (heredity : Heredity P E)
    {machine machine' : Machine} (h : AdmitsMachine P E machine)
    (hstep : machine.Steps machine') :
    AdmitsMachine P E machine' := by
  obtain ⟨control, frames, stamp⟩ := machine
  cases control with
  | eval e site scope =>
      exact .of_enter heredity hstep h.control h.frames
  | ret value =>
      exact .of_resume hstep h.control h.frames
  | call function argument =>
      exact .of_invoke heredity hstep h.control h.frames

/-- Wherever the machine comes, all that it holds has the property. -/
theorem AdmitsMachine.leads
    (heredity : Heredity P E)
    {machine machine' : Machine} (h : AdmitsMachine P E machine)
    (hleads : machine.Leads machine') :
    AdmitsMachine P E machine' := by
  induction hleads with
  | refl =>
      exact h
  | tail _ hstep ih =>
      exact ih.step heredity hstep

end Heredity
end LamApp
