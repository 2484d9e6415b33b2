import LamApp.Proofs.Heredity
import LamApp.Proofs.Substitution
import Mathlib.Tactic.Tauto

/-!
# Lexical scoping

A closure carries the scope in which its `lam` form was met. Read back as a
term it is the `lam` form with the values of that scope in the places of the
free variables, and a builtin with some arguments is a constant that has
received them. The innermost binding of a name counts, as the innermost `lam`
form does for a variable.

Main statement: the evaluation of a program in scopes and its evaluation by
substitution come to an end together, and then with results that read the same.
Nothing hides in the values of such a run: there are no error objects among
them, and the body of a closure has no variable that its scope does not bind.
-/

namespace LamApp

/-! ## Values as terms -/

mutual

/-- The term that a value stands for. -/
def Value.toTerm : Value → Term
  | .error cause => .error cause
  | .bool value => .bool value
  | .number value => .number value
  | .builtin _ function => function.toTerm
  | .closure _ parameter body scope =>
    (Expr.lam parameter body).close scope.term?

/-- The constant that a builtin stands for, with its arguments. -/
def Builtin.toTerm : Builtin → Term
  | .add => .constant .add
  | .addTo left => .partly (.constant .add) (.number left)
  | .cond => .constant .cond
  | .condThen condition => .partly (.constant .cond) (.bool condition)
  | .condElse condition thenValue =>
    .partly (.partly (.constant .cond) (.bool condition)) thenValue.toTerm
  | .gt => .constant .gt
  | .gtOver left => .partly (.constant .gt) (.number left)

/-- The terms of the variables that a scope binds. -/
def Scope.term? : Scope → String → Option Term
  | .empty => fun _ => none
  | .bind _ symbol value outer =>
    Function.update outer.term? symbol (some value.toTerm)

end

namespace Scope

theorem term?_eq (scope : Scope) (name : String) :
    scope.term? name = (scope.lookup name).map Value.toTerm := by
  match scope with
  | .empty =>
      rfl
  | .bind stamp symbol value outer =>
      rw [term?, lookup]
      by_cases hsymbol : symbol = name
      · rw [if_pos hsymbol, hsymbol, Function.update_self]
        rfl
      · rw [if_neg hsymbol, Function.update_of_ne (Ne.symm hsymbol)]
        exact outer.term?_eq name

theorem isSome_term?
    {scope : Scope} {name : String} (h : name ∈ scope.symbols) :
    (scope.term? name).isSome := by
  match scope, h with
  | .bind stamp symbol value outer, h =>
      rw [term?]
      by_cases hsymbol : name = symbol
      · rw [hsymbol, Function.update_self]
        rfl
      · rw [Function.update_of_ne hsymbol]
        exact isSome_term? (List.mem_of_ne_of_mem hsymbol h)

end Scope

namespace Builtin

theorem isValue_toTerm (function : Builtin) :
    function.toTerm.isValue = true := by
  cases function <;> rfl

theorem isLam_toTerm (function : Builtin) :
    function.toTerm.isLam = false := by
  cases function <;> rfl

theorem isConstant_toTerm (function : Builtin) :
    function.toTerm.isConstant = true := by
  cases function <;> rfl

theorem render_toTerm_eq_name (function : Builtin) :
    function.toTerm.render = "<function " ++ function.toTerm.name ++ ">" := by
  cases function <;> rfl

end Builtin

mutual

/-- A value reads as its term does. -/
theorem Value.render_toTerm (value : Value) :
    value.toTerm.render = value.render := by
  match value with
  | .error cause =>
      rfl
  | .bool value =>
      rfl
  | .number value =>
      rfl
  | .builtin stamp function =>
      rw [Value.toTerm, Value.render, function.render_toTerm_eq_name,
        function.name_toTerm]
  | .closure site parameter body scope =>
      rfl

theorem Builtin.name_toTerm (function : Builtin) :
    function.toTerm.name = function.name := by
  match function with
  | .add =>
      rfl
  | .addTo left =>
      rfl
  | .cond =>
      rfl
  | .condThen condition =>
      rfl
  | .condElse condition thenValue =>
      rw [Builtin.toTerm, Term.name, thenValue.render_toTerm]
      rfl
  | .gt =>
      rfl
  | .gtOver left =>
      rfl

end

namespace Value

theorem number?_toTerm (constant : String) (value : Value) :
    value.toTerm.number? constant = value.number? constant := by
  have hrender := value.render_toTerm
  cases value with
  | builtin stamp function =>
      have hbuiltin : (builtin stamp function).number? constant =
          .error (.notNumber constant (builtin stamp function).render) := rfl
      rw [toTerm] at hrender ⊢
      rw [hbuiltin, ← hrender]
      cases function <;> rfl
  | _ =>
      rfl

theorem bool?_toTerm (constant : String) (value : Value) :
    value.toTerm.bool? constant = value.bool? constant := by
  have hrender := value.render_toTerm
  cases value with
  | builtin stamp function =>
      have hbuiltin : (builtin stamp function).bool? constant =
          .error (.notBool constant (builtin stamp function).render) := rfl
      rw [toTerm] at hrender ⊢
      rw [hbuiltin, ← hrender]
      cases function <;> rfl
  | _ =>
      rfl

theorem eq_number_of_number?
    {builtin : String} {value : Value} {number : Int}
    (h : value.number? builtin = .ok number) :
    value = .number number := by
  cases value <;> cases h
  rfl

theorem eq_bool_of_bool?
    {builtin : String} {value : Value} {bool : Bool}
    (h : value.bool? builtin = .ok bool) :
    value = .bool bool := by
  cases value <;> cases h
  rfl

end Value

/-- Constants check and collect their arguments as builtins do. -/
theorem Builtin.take_toTerm
    (function : Builtin) (argument : Value) (stamp : Stamp) :
    function.toTerm.take argument.toTerm =
      (function.apply stamp argument).map Value.toTerm := by
  cases function with
  | condThen condition =>
      rfl
  | condElse condition thenValue =>
      cases condition <;> rfl
  | cond =>
      rw [toTerm, Term.take, argument.bool?_toTerm, apply]
      cases hbool : argument.bool? "if" with
      | error cause =>
          rfl
      | ok condition =>
          rw [Value.eq_bool_of_bool? hbool]
          rfl
  | add =>
      rw [toTerm, Term.take, argument.number?_toTerm, apply]
      cases hnumber : argument.number? "add" with
      | error cause =>
          rfl
      | ok left =>
          rw [Value.eq_number_of_number? hnumber]
          rfl
  | gt =>
      rw [toTerm, Term.take, argument.number?_toTerm, apply]
      cases hnumber : argument.number? "gt" with
      | error cause =>
          rfl
      | ok left =>
          rw [Value.eq_number_of_number? hnumber]
          rfl
  | addTo left =>
      rw [toTerm, Term.take, argument.number?_toTerm, apply]
      cases argument.number? "add" <;> rfl
  | gtOver left =>
      rw [toTerm, Term.take, argument.number?_toTerm, apply]
      cases argument.number? "gt" <;> rfl

/-! ## Scopes that bind what is free -/

/-- The scope binds the free variables of the expression. -/
def Expr.ScopedIn (e : Expr) (scope : Scope) : Prop :=
  ∀ name, e.Free name → name ∈ scope.symbols

namespace Value

/-- No error object, and no closure with a variable that nothing binds. -/
def Scoped : Value → Prop
  | .error _ => False
  | .closure _ parameter body scope =>
    (Expr.lam parameter body).ScopedIn scope
  | _ => True

theorem heredity_scoped : Heredity Scoped Expr.ScopedIn where
  number _ := trivial
  bool _ := trivial
  builtin _ _ := trivial
  app h :=
    ⟨fun name hfree => h name (.inl hfree),
      fun name hfree => h name (.inr hfree)⟩
  lam _ h := h
  call := by
    intro site parameter body scope stamp argument h name hfree
    by_cases hname : parameter = name
    · rw [← hname]
      exact List.mem_cons_self
    · exact List.mem_cons_of_mem parameter (h name ⟨hname, hfree⟩)

end Value

mutual

theorem Value.closed_toTerm
    {value : Value} (h : value.All Value.Scoped) :
    value.toTerm.Closed := by
  match value, h with
  | .bool value, h =>
      exact fun _ _ => rfl
  | .number value, h =>
      exact fun _ _ => rfl
  | .builtin stamp function, h =>
      exact Builtin.closed_toTerm h.2
  | .closure site parameter body scope, h =>
      exact Expr.closed_close (Scope.allClosed_term? h.2)
        fun name hfree => Scope.isSome_term? (h.1 name hfree)

theorem Builtin.closed_toTerm
    {function : Builtin} (h : function.All Value.Scoped) :
    function.toTerm.Closed := by
  match function, h with
  | .condElse condition thenValue, h =>
      intro name term
      rw [Builtin.toTerm, Term.subst, Value.closed_toTerm h]
      rfl
  | .add, h | .addTo left, h | .cond, h | .condThen condition, h
  | .gt, h | .gtOver left, h =>
      exact fun _ _ => rfl

theorem Scope.allClosed_term?
    {scope : Scope} (h : scope.All Value.Scoped) :
    AllClosed scope.term? := by
  match scope, h with
  | .empty, h =>
      exact allClosed_none
  | .bind stamp symbol value outer, h =>
      exact (Scope.allClosed_term? h.2).bind symbol (Value.closed_toTerm h.1)

end

/-! ## The two evaluations -/

theorem Value.isValue_toTerm
    {value : Value} (h : value.All Value.Scoped) :
    value.toTerm.isValue = true := by
  cases value with
  | error cause =>
      cases h
  | builtin stamp function =>
      exact function.isValue_toTerm
  | _ =>
      rfl

/-- The body of a `lam` form, closed by its scope and the argument. -/
theorem Expr.subst_close_hide
    {scope : Scope} (hscope : scope.All Value.Scoped)
    (stamp : Stamp) (parameter : String) (argument : Value) (body : Expr) :
    (body.close (Function.update scope.term? parameter none)).subst
        parameter argument.toTerm =
      body.close (Scope.bind stamp parameter argument scope).term? := by
  rw [subst_close ((Scope.allClosed_term? hscope).hide parameter)
    (Function.update_self parameter none scope.term?), Function.update_idem,
    Scope.term?]

/-- The term that a control evaluates. The sides of a call have been evaluated
already. -/
def Control.Reads : Control → Term → Prop
  | .eval e _ scope, term => term = e.close scope.term?
  | .ret value, term => term = value.toTerm
  | .call function argument, term =>
    ∃ f a,
      term = .app f a ∧
      f.Reduces (.ok function.toTerm) ∧ a.Reduces (.ok argument.toTerm)

/-- Evaluation in scopes is evaluation by substitution. -/
theorem Control.Yields.reduces
    {control : Control} {stamp : Stamp} {result : Evaluation}
    (hyields : control.Yields stamp result)
    (hadmits : Heredity.Admits Value.Scoped Expr.ScopedIn control)
    {term : Term} (hreads : control.Reads term) :
    term.Reduces (result.outcome.map Value.toTerm) := by
  induction hyields generalizing term with
  | ret value stamp =>
      rw [hreads]
      exact .value (Value.isValue_toTerm hadmits)
  | error cause site scope stamp =>
      rw [hreads]
      exact .error _
  | var name site scope stamp =>
      obtain ⟨value, hlookup⟩ : ∃ value, scope.lookup name = some value := by
        have hterm := Scope.isSome_term? (hadmits.1 name rfl)
        rwa [Scope.term?_eq, Option.isSome_map, Option.isSome_iff_exists]
          at hterm
      have hvalue := hadmits.2.of_lookup hlookup
      have hresolve : scope.resolve name = .ok value := by
        rw [Scope.resolve, hlookup]
        cases value with
        | error cause =>
            cases hvalue
        | _ =>
            rfl
      rw [hreads, Expr.close, Scope.term?_eq, hlookup, hresolve]
      exact .value (Value.isValue_toTerm hvalue)
  | number value site scope stamp =>
      rw [hreads]
      exact .value rfl
  | bool value site scope stamp =>
      rw [hreads]
      exact .value rfl
  | lam parameter body site scope stamp =>
      rw [hreads]
      exact .value rfl
  | functionError _ ih =>
      rw [hreads]
      have hf := Value.heredity_scoped.app hadmits.1
      exact .functionError (ih ⟨hf.1, hadmits.2⟩ rfl)
  | argumentError _ _ ihf iha =>
      rw [hreads]
      have hf := Value.heredity_scoped.app hadmits.1
      exact .argumentError (ihf ⟨hf.1, hadmits.2⟩ rfl)
        (iha ⟨hf.2, hadmits.2⟩ rfl)
  | app hf ha _ ihf iha ihc =>
      obtain ⟨he, hscope⟩ := hadmits
      obtain ⟨hef, hea⟩ := Value.heredity_scoped.app he
      refine ihc ⟨?_, ?_⟩ ⟨_, _, hreads, ?_, ?_⟩
      · exact Value.heredity_scoped.all_of_yields hf ⟨hef, hscope⟩ rfl
      · exact Value.heredity_scoped.all_of_yields ha ⟨hea, hscope⟩ rfl
      · exact ihf ⟨hef, hscope⟩ rfl
      · exact iha ⟨hea, hscope⟩ rfl
  | callBuiltin created function argument stamp =>
      obtain ⟨f, a, rfl, hf, ha⟩ := hreads
      rw [← function.take_toTerm]
      exact .take hf ha function.isLam_toTerm
  | callClosure _ ih =>
      -- The body is evaluated in the scope of the closure, so its term is the
      -- body of the `lam` form with the argument put in.
      obtain ⟨f, a, rfl, hf, ha⟩ := hreads
      obtain ⟨⟨hclosure, hscope⟩, hargument⟩ := hadmits
      refine .beta hf ha (ih ⟨?_, hargument, hscope⟩ ?_)
      · exact Value.heredity_scoped.call _ _ hclosure
      · exact Expr.subst_close_hide hscope _ _ _ _
  | callError cause argument stamp =>
      cases hadmits.1
  | callNumber value argument stamp =>
      obtain ⟨f, a, rfl, hf, ha⟩ := hreads
      exact .take hf ha rfl
  | callBool value argument stamp =>
      obtain ⟨f, a, rfl, hf, ha⟩ := hreads
      exact .take hf ha rfl

theorem Control.Yields.exists_value_of_reduces
    {e : Expr} {site : Site} {scope : Scope} {stamp : Stamp}
    {result : Evaluation}
    (hyields : Control.Yields (.eval e site scope) stamp result)
    (he : e.ScopedIn scope) (hscope : scope.All Value.Scoped)
    {term : Term} (hreduces : (e.close scope.term?).Reduces (.ok term)) :
    ∃ value stamp',
      result = ⟨.ok value, stamp'⟩ ∧
      value.All Value.Scoped ∧ value.toTerm = term := by
  have hterm := (hyields.reduces ⟨he, hscope⟩ rfl).unique hreduces
  obtain ⟨_ | value, stamp'⟩ := result
  · cases hterm
  · cases hterm
    refine ⟨value, stamp', rfl, ?_, rfl⟩
    exact Value.heredity_scoped.all_of_yields hyields ⟨he, hscope⟩ rfl

theorem Control.Yields.exists_error_of_reduces
    {e : Expr} {site : Site} {scope : Scope} {stamp : Stamp}
    {result : Evaluation}
    (hyields : Control.Yields (.eval e site scope) stamp result)
    (he : e.ScopedIn scope) (hscope : scope.All Value.Scoped)
    {cause : RuntimeError}
    (hreduces : (e.close scope.term?).Reduces (.error cause)) :
    ∃ stamp', result = ⟨.error cause, stamp'⟩ := by
  have hterm := (hyields.reduces ⟨he, hscope⟩ rfl).unique hreduces
  obtain ⟨_ | value, stamp'⟩ := result
  · cases hterm
    exact ⟨stamp', rfl⟩
  · cases hterm

namespace Value

theorem eq_closure_of_toTerm_eq_lam
    {value : Value} {parameter : String} {body : Term}
    (h : value.toTerm = .lam parameter body) :
    ∃ site e scope,
      value = .closure site parameter e scope ∧
      body = e.close (Function.update scope.term? parameter none) := by
  cases value with
  | closure site parameter e scope =>
      cases h
      exact ⟨site, e, scope, rfl, rfl⟩
  | builtin stamp function =>
      have hlam := function.isLam_toTerm
      rw [toTerm] at h
      rw [h] at hlam
      cases hlam
  | _ =>
      cases h

/-- Only the call of a closure can run without end. -/
theorem exists_yields_call
    {function : Value} (h : function.toTerm.isLam = false)
    (argument : Value) (stamp : Stamp) :
    ∃ result, Control.Yields (.call function argument) stamp result := by
  cases function with
  | closure site parameter body scope =>
      cases h
  | builtin created builtin =>
      exact ⟨_, .callBuiltin created builtin argument stamp⟩
  | error cause =>
      exact ⟨_, .callError cause argument stamp⟩
  | number value =>
      exact ⟨_, .callNumber value argument stamp⟩
  | bool value =>
      exact ⟨_, .callBool value argument stamp⟩

end Value

theorem Expr.exists_yields_or_eq_app (e : Expr) :
    (∀ site scope stamp,
      ∃ result, Control.Yields (.eval e site scope) stamp result) ∨
    ∃ f a, e = .app f a := by
  cases e with
  | app f a =>
      exact .inr ⟨f, a, rfl⟩
  | error cause =>
      exact .inl fun site scope stamp => ⟨_, .error cause site scope stamp⟩
  | var name =>
      exact .inl fun site scope stamp => ⟨_, .var name site scope stamp⟩
  | number value =>
      exact .inl fun site scope stamp => ⟨_, .number value site scope stamp⟩
  | bool value =>
      exact .inl fun site scope stamp => ⟨_, .bool value site scope stamp⟩
  | lam parameter body =>
      exact .inl fun site scope stamp =>
        ⟨_, .lam parameter body site scope stamp⟩

/-- Where evaluation by substitution comes to an end, so does evaluation in
scopes. -/
theorem Term.Reduces.exists_yields
    {term : Term} {expected : Except RuntimeError Term}
    (hreduces : term.Reduces expected)
    {e : Expr} {scope : Scope}
    (he : e.ScopedIn scope) (hscope : scope.All Value.Scoped)
    (hterm : term = e.close scope.term?) (site : Site) (stamp : Stamp) :
    ∃ result, Control.Yields (.eval e site scope) stamp result := by
  -- Only an application can run without end. Its sides end by induction, and
  -- since a term has one result, they end with values that read as expected.
  induction hreduces generalizing e scope site stamp with
  | error cause =>
      rcases e.exists_yields_or_eq_app with hyields | ⟨f, a, rfl⟩
      · exact hyields site scope stamp
      · cases hterm
  | var name =>
      rcases e.exists_yields_or_eq_app with hyields | ⟨f, a, rfl⟩
      · exact hyields site scope stamp
      · cases hterm
  | value hvalue =>
      rcases e.exists_yields_or_eq_app with hyields | ⟨f, a, rfl⟩
      · exact hyields site scope stamp
      · rw [hterm] at hvalue
        cases hvalue
  | functionError hf ih =>
      rcases e.exists_yields_or_eq_app with hyields | ⟨f, a, rfl⟩
      · exact hyields site scope stamp
      cases hterm
      obtain ⟨hef, -⟩ := Value.heredity_scoped.app he
      obtain ⟨_, hyields⟩ := ih hef hscope rfl (site.turn .function) stamp
      obtain ⟨stamp₁, rfl⟩ := hyields.exists_error_of_reduces hef hscope hf
      exact ⟨_, .functionError hyields⟩
  | argumentError hf ha ihf iha =>
      rcases e.exists_yields_or_eq_app with hyields | ⟨f, a, rfl⟩
      · exact hyields site scope stamp
      cases hterm
      obtain ⟨hef, hea⟩ := Value.heredity_scoped.app he
      obtain ⟨_, hyf⟩ := ihf hef hscope rfl (site.turn .function) stamp
      obtain ⟨function, stamp₁, rfl, -, -⟩ :=
        hyf.exists_value_of_reduces hef hscope hf
      obtain ⟨_, hya⟩ := iha hea hscope rfl (site.turn .argument) stamp₁
      obtain ⟨stamp₂, rfl⟩ := hya.exists_error_of_reduces hea hscope ha
      exact ⟨_, .argumentError hyf hya⟩
  | beta hf ha hb ihf iha ihb =>
      rcases e.exists_yields_or_eq_app with hyields | ⟨f, a, rfl⟩
      · exact hyields site scope stamp
      cases hterm
      obtain ⟨hef, hea⟩ := Value.heredity_scoped.app he
      obtain ⟨_, hyf⟩ := ihf hef hscope rfl (site.turn .function) stamp
      obtain ⟨function, stamp₁, rfl, hfunction, hlam⟩ :=
        hyf.exists_value_of_reduces hef hscope hf
      obtain ⟨_, hya⟩ := iha hea hscope rfl (site.turn .argument) stamp₁
      obtain ⟨argument, stamp₂, rfl, hargument, rfl⟩ :=
        hya.exists_value_of_reduces hea hscope ha
      obtain ⟨site', body, scope', rfl, rfl⟩ :=
        Value.eq_closure_of_toTerm_eq_lam hlam
      obtain ⟨result, hbody⟩ :=
        ihb (Value.heredity_scoped.call stamp₂ argument hfunction.1)
          ⟨hargument, hfunction.2⟩
          (Expr.subst_close_hide hfunction.2 stamp₂ _ argument body)
          (site'.turn .body) (stamp₂ + 1)
      exact ⟨result, .app hyf hya (.callClosure hbody)⟩
  | take hf ha hlam ihf iha =>
      rcases e.exists_yields_or_eq_app with hyields | ⟨f, a, rfl⟩
      · exact hyields site scope stamp
      cases hterm
      obtain ⟨hef, hea⟩ := Value.heredity_scoped.app he
      obtain ⟨_, hyf⟩ := ihf hef hscope rfl (site.turn .function) stamp
      obtain ⟨function, stamp₁, rfl, -, rfl⟩ :=
        hyf.exists_value_of_reduces hef hscope hf
      obtain ⟨_, hya⟩ := iha hea hscope rfl (site.turn .argument) stamp₁
      obtain ⟨argument, stamp₂, rfl, -, -⟩ :=
        hya.exists_value_of_reduces hea hscope ha
      obtain ⟨result, hcall⟩ :=
        Value.exists_yields_call hlam argument stamp₂
      exact ⟨result, .app hyf hya hcall⟩

/-! ## Programs -/

/-- A value is what evaluation by substitution comes to, as far as it can be
told without looking into functions. -/
def Value.Agrees : Value → Except RuntimeError Term → Prop
  | .error cause, .error cause' => cause = cause'
  | .bool value, .ok (.bool value') => value = value'
  | .number value, .ok (.number value') => value = value'
  | .closure _ parameter _ _, .ok (.lam parameter' _) => parameter = parameter'
  | .builtin stamp function, .ok term =>
    term.isConstant = true ∧
    term.render = (Value.builtin stamp function).render
  | _, _ => False

theorem Outcome.agrees_toValue
    {outcome : Outcome}
    (h : ∀ value, outcome = .ok value → value.All Value.Scoped) :
    outcome.toValue.Agrees (outcome.map Value.toTerm) := by
  cases outcome with
  | error cause =>
      rfl
  | ok value =>
      have hvalue := h value rfl
      cases value with
      | error cause =>
          cases hvalue
      | bool value =>
          rfl
      | number value =>
          rfl
      | builtin stamp function =>
          exact ⟨function.isConstant_toTerm,
            (Value.builtin stamp function).render_toTerm⟩
      | closure site parameter body scope =>
          rfl

namespace Expr

theorem program_eq_close (e : Expr) :
    e.program = e.close Scope.standard.term? := by
  have hconstant : ∀ primitive, (Term.constant primitive).Closed :=
    fun _ _ _ => rfl
  have hadd := allClosed_none.bind "add" (hconstant .add)
  have hif := hadd.bind "if" (hconstant .cond)
  rw [program, ← close_none, subst_close allClosed_none rfl,
    subst_close hadd (by decide), subst_close hif (by decide)]
  rfl

/-- Programs mean what substitution says: evaluation comes to an end exactly if
evaluation by substitution does, and the two agree on the result. -/
theorem evaluate_agrees_with_substitution
    (e : Expr) (hfree : ∀ name, e.Free name → name ∈ ["add", "if", "gt"]) :
    ((∃ limit value, e.evaluate limit = some value) ↔
      ∃ result, e.program.Reduces result) ∧
    ∀ limit value result,
      e.evaluate limit = some value → e.program.Reduces result →
        value.Agrees result := by
  have he : e.ScopedIn Scope.standard := by
    intro name hname
    have hmem := hfree name hname
    simp only [Scope.standard, Scope.symbols, List.mem_cons] at hmem ⊢
    tauto
  have hstandard : Scope.standard.All Value.Scoped := by
    simp [Scope.standard, Scope.All, Value.All, Builtin.All, Value.Scoped]
  rw [program_eq_close]
  constructor
  · constructor
    · rintro ⟨limit, value, hevaluate⟩
      obtain ⟨result, hyields, -⟩ :=
        (e.exists_evaluate_eq_some_iff value).mp ⟨limit, hevaluate⟩
      exact ⟨_, hyields.reduces ⟨he, hstandard⟩ rfl⟩
    · rintro ⟨expected, hreduces⟩
      obtain ⟨result, hyields⟩ :=
        hreduces.exists_yields he hstandard rfl (.root Stamp.start)
          (Stamp.start + 1)
      obtain ⟨limit, hevaluate⟩ :=
        (e.exists_evaluate_eq_some_iff _).mpr ⟨result, hyields, rfl⟩
      exact ⟨limit, _, hevaluate⟩
  · intro limit value expected hevaluate hreduces
    obtain ⟨result, hyields, rfl⟩ :=
      (e.exists_evaluate_eq_some_iff value).mp ⟨limit, hevaluate⟩
    have hterm := hyields.reduces ⟨he, hstandard⟩ rfl
    rw [← hterm.unique hreduces]
    refine Outcome.agrees_toValue ?_
    intro value hvalue
    exact Value.heredity_scoped.all_of_yields hyields ⟨he, hstandard⟩ hvalue

/-- The parameter `add` hides the builtin in the body, not in the argument. -/
theorem evaluate_agrees_of_hidden_add :
    ∃ result,
      (app
        (app (lam "add" (lam "x" (app (var "add") (var "x"))))
          (app (var "add") (number 1)))
        (number 2)).program.Reduces result ∧
      (Value.number 3).Agrees result := by
  have h := evaluate_agrees_with_substitution
    (app
      (app (lam "add" (lam "x" (app (var "add") (var "x"))))
        (app (var "add") (number 1)))
      (number 2))
    (by
      intro name hname
      simp only [Free] at hname
      simp only [List.mem_cons]
      tauto)
  obtain ⟨result, hreduces⟩ := h.1.mp ⟨24, .number 3, rfl⟩
  exact ⟨result, hreduces, h.2 24 _ _ rfl hreduces⟩

end Expr
end LamApp
