import LamApp.Proofs.DelayedBranches

/-!
# The order of evaluation

An application evaluates its function, then its argument, and then calls the
one with the other. The first error ends it. So there is a way from an
expression down to a part of it that is bound to be evaluated: the way goes
through functions and arguments of applications, and where it turns to the
argument, the function has been evaluated without error.

Main statement: an error at the end of such a way is the error of the whole,
whatever stands to the right of the way. In the other direction an expression
that ends in an error has one such way to the place where the error arises: a
variable, a place that could not be read, or a call.
-/

namespace LamApp

/-- Some call of the function with the argument comes to this outcome. -/
def Value.CallComesTo (function argument : Value) (outcome : Outcome) : Prop :=
  ∃ (limit : Nat) (stamp : Stamp) (result : Evaluation),
    function.apply limit argument stamp = some result ∧
    result.outcome = outcome

namespace Expr

/-- A way down to a part that is evaluated in the same scope. All that is
evaluated before it is evaluated without error. -/
inductive Path (scope : Scope) : List Turn → Expr → Expr → Prop
  | here (e : Expr) : Path scope [] e e
  | function {way : List Turn} {f a e : Expr} :
      Path scope way f e →
      Path scope (.function :: way) (.app f a) e
  | argument {way : List Turn} {f a e : Expr} {function : Value} :
      f.ComesTo scope (.ok function) →
      Path scope way a e →
      Path scope (.argument :: way) (.app f a) e

/-- The error arises at the expression itself, and not at a part of it. -/
inductive Raises (scope : Scope) (cause : RuntimeError) : Expr → Prop
  | var {name : String} :
      scope.resolve name = .error cause →
      Raises scope cause (.var name)
  | error {reason : SyntaxError} :
      cause = .unreadable reason →
      Raises scope cause (.error reason)
  | call {f a : Expr} {function argument : Value} :
      f.ComesTo scope (.ok function) →
      a.ComesTo scope (.ok argument) →
      function.CallComesTo argument (.error cause) →
      Raises scope cause (.app f a)

/-! ## Outcomes of the same expression -/

section Outcomes

variable {e : Expr} {scope : Scope}

/-- Two evaluations in the same scope come to the same, but for stamps and
sites. -/
theorem ComesTo.related
    {outcome outcome' : Outcome}
    (h : e.ComesTo scope outcome) (h' : e.ComesTo scope outcome') :
    Outcome.Related Value.Resembles Eq outcome outcome' := by
  obtain ⟨limit, planted, stamp, result', hevaluate, rfl⟩ := h'
  obtain ⟨result, hyields, hrelated⟩ := h.exists_yields (.root planted) stamp
  have hyields' := Tree.yields_of_evaluate_eq_some hevaluate
  rwa [hyields'.unique hyields]

/-- Without error is not with an error. -/
theorem ComesTo.not_error_of_ok
    {value : Value} {cause : RuntimeError}
    (h : e.ComesTo scope (.ok value)) :
    ¬ e.ComesTo scope (.error cause) := by
  intro hcause
  cases h.related hcause

/-- An error is always the same one. -/
theorem ComesTo.exists_yields_error
    {cause : RuntimeError}
    (h : e.ComesTo scope (.error cause)) (site : Site) (stamp : Stamp) :
    ∃ stamp',
      Control.Yields (.eval e site scope) stamp ⟨.error cause, stamp'⟩ := by
  obtain ⟨⟨_, stamp'⟩, hyields, hrelated⟩ := h.exists_yields site stamp
  cases hrelated with
  | error hcause =>
      rw [hcause]
      exact ⟨stamp', hyields⟩

theorem comesTo_of_yields
    {planted stamp : Stamp} {result : Evaluation}
    (hyields : Control.Yields (.eval e (.root planted) scope) stamp result) :
    e.ComesTo scope result.outcome := by
  obtain ⟨limit, hevaluate⟩ := (Machine.ends_iff_yields _ _ _).mpr hyields
  exact ⟨limit, planted, stamp, result, hevaluate, rfl⟩

/-- What a part comes to at its place, it also comes to on its own. -/
theorem exists_comesTo_of_yields_ok
    {site : Site} {stamp stamp' : Stamp} {value : Value}
    (hyields : Control.Yields (.eval e site scope) stamp
      ⟨.ok value, stamp'⟩) :
    ∃ value',
      e.ComesTo scope (.ok value') ∧ value.Resembles value' := by
  obtain ⟨⟨outcome, stamp''⟩, hyields', hrelated⟩ :=
    exists_yields_elsewhere hyields (.root 0) stamp
  cases hrelated with
  | ok hvalue =>
      exact ⟨_, comesTo_of_yields hyields', hvalue⟩

end Outcomes

/-! ## Where errors arise -/

/-- A call that fails also fails with values that resemble those of the call. -/
theorem exists_yields_call_error
    {function function' argument argument' : Value} {cause : RuntimeError}
    (h : function.CallComesTo argument (.error cause))
    (hfunction : function.Resembles function')
    (hargument : argument.Resembles argument') (stamp : Stamp) :
    ∃ stamp',
      Control.Yields (.call function' argument') stamp
        ⟨.error cause, stamp'⟩ := by
  obtain ⟨limit, stamp₀, result₀, happly, hresult⟩ := h
  obtain ⟨⟨_, stamp'⟩, hyields, hrelated⟩ :=
    Value.simulation_resembles.exists_yields
      (Value.yields_of_apply_eq_some happly) (.call hfunction hargument) stamp
  rw [hresult] at hrelated
  cases hrelated with
  | error hcause =>
      rw [hcause]
      exact ⟨stamp', hyields⟩

theorem callComesTo_error_of_yields
    {function function' argument argument' : Value} {cause : RuntimeError}
    {stamp stamp' : Stamp}
    (hyields : Control.Yields (.call function argument) stamp
      ⟨.error cause, stamp'⟩)
    (hfunction : function.Resembles function')
    (hargument : argument.Resembles argument') :
    function'.CallComesTo argument' (.error cause) := by
  obtain ⟨limit, happly⟩ := (Machine.ends_iff_yields _ _ _).mpr hyields
  obtain ⟨stamp'', hyields'⟩ := exists_yields_call_error
    ⟨limit, stamp, _, happly, rfl⟩ hfunction hargument stamp
  obtain ⟨limit', happly'⟩ := (Machine.ends_iff_yields _ _ _).mpr hyields'
  exact ⟨limit', stamp, _, happly', rfl⟩

section Errors

variable {scope : Scope} {cause : RuntimeError}

/-- An expression at which an error arises ends in this error. -/
theorem Raises.comesTo
    {e : Expr} (h : e.Raises scope cause) :
    e.ComesTo scope (.error cause) := by
  suffices hends : ∃ stamp,
      Control.Yields (.eval e (.root 0) scope) 0 ⟨.error cause, stamp⟩ by
    obtain ⟨stamp, hyields⟩ := hends
    exact comesTo_of_yields hyields
  cases h with
  | @var name hresolve =>
      have hvar := Control.Yields.var name (.root 0) scope 0
      rw [hresolve] at hvar
      exact ⟨0, hvar⟩
  | @error reason hcause =>
      rw [hcause]
      exact ⟨0, .error reason (.root 0) scope 0⟩
  | call hf ha hcall =>
      obtain ⟨⟨_, stamp₁⟩, hyieldsf, hfunction⟩ :=
        hf.exists_yields ((Site.root 0).turn .function) 0
      obtain ⟨hfunction⟩ := hfunction
      obtain ⟨⟨_, stamp₂⟩, hyieldsa, hargument⟩ :=
        ha.exists_yields ((Site.root 0).turn .argument) stamp₁
      obtain ⟨hargument⟩ := hargument
      obtain ⟨stamp₃, hyieldsc⟩ :=
        exists_yields_call_error hcall hfunction hargument stamp₂
      exact ⟨stamp₃, .app hyieldsf hyieldsa hyieldsc⟩

/-- The error at the end of a way ends the whole. -/
theorem Path.exists_yields_error
    {way : List Turn} {t e : Expr} (hpath : Path scope way t e)
    (he : e.ComesTo scope (.error cause)) (site : Site) (stamp : Stamp) :
    ∃ stamp',
      Control.Yields (.eval t site scope) stamp ⟨.error cause, stamp'⟩ := by
  induction hpath generalizing site stamp with
  | here e =>
      exact he.exists_yields_error site stamp
  | function _ ih =>
      obtain ⟨stamp', hf⟩ := ih he (site.turn .function) stamp
      exact ⟨stamp', .functionError hf⟩
  | argument hfunction _ ih =>
      obtain ⟨value, stamp₁, hf⟩ :=
        hfunction.exists_yields_ok (site.turn .function) stamp
      obtain ⟨stamp', ha⟩ := ih he (site.turn .argument) stamp₁
      exact ⟨stamp', .argumentError hf ha⟩

theorem Path.comesTo_error
    {way : List Turn} {t e : Expr} (hpath : Path scope way t e)
    (he : e.Raises scope cause) :
    t.ComesTo scope (.error cause) := by
  obtain ⟨stamp, hyields⟩ :=
    hpath.exists_yields_error he.comesTo (.root 0) 0
  exact comesTo_of_yields hyields

theorem resolve_of_yields
    {name : String} {site : Site} {stamp : Stamp} {result : Evaluation}
    (hyields : Control.Yields (.eval (.var name) site scope) stamp result) :
    result.outcome = scope.resolve name := by
  cases hyields
  rfl

/-- There is a way to the place where the error of an evaluation arises. -/
theorem exists_path_of_yields
    {t : Expr} {site : Site} {stamp stamp' : Stamp}
    (hyields : Control.Yields (.eval t site scope) stamp
      ⟨.error cause, stamp'⟩) :
    ∃ way e, Path scope way t e ∧ e.Raises scope cause := by
  induction t generalizing site stamp stamp' with
  | error reason =>
      cases hyields
      exact ⟨[], _, .here _, .error rfl⟩
  | var name =>
      exact ⟨[], _, .here _, .var (resolve_of_yields hyields).symm⟩
  | number value =>
      cases hyields
  | bool value =>
      cases hyields
  | lam parameter body =>
      cases hyields
  | app f a ihf iha =>
      cases hyields with
      | functionError hf =>
          obtain ⟨way, e, hpath, he⟩ := ihf hf
          exact ⟨.function :: way, e, .function hpath, he⟩
      | argumentError hf ha =>
          obtain ⟨value, hvalue, -⟩ := exists_comesTo_of_yields_ok hf
          obtain ⟨way, e, hpath, he⟩ := iha ha
          exact ⟨.argument :: way, e, .argument hvalue hpath, he⟩
      | app hf ha hcall =>
          obtain ⟨function, hfunction, hlike⟩ :=
            exists_comesTo_of_yields_ok hf
          obtain ⟨argument, hargument, hlike'⟩ :=
            exists_comesTo_of_yields_ok ha
          exact ⟨[], _, .here _, .call hfunction hargument
            (callComesTo_error_of_yields hcall hlike hlike')⟩

/-- An error arises at one place only. -/
theorem Path.eq_of_raises
    {cause' : RuntimeError} {way way' : List Turn} {t e e' : Expr}
    (hpath : Path scope way t e) (he : e.Raises scope cause)
    (hpath' : Path scope way' t e') (he' : e'.Raises scope cause') :
    way = way' := by
  induction hpath generalizing way' with
  | here e =>
      cases hpath' with
      | here =>
          rfl
      | function hf =>
          cases he with
          | call hfunction _ _ =>
              exact (hfunction.not_error_of_ok (hf.comesTo_error he')).elim
      | argument _ ha =>
          cases he with
          | call _ hargument _ =>
              exact (hargument.not_error_of_ok (ha.comesTo_error he')).elim
  | function hf ih =>
      cases hpath' with
      | here =>
          cases he' with
          | call hfunction _ _ =>
              exact (hfunction.not_error_of_ok (hf.comesTo_error he)).elim
      | function hf' =>
          rw [ih he hf']
      | argument hfunction _ =>
          exact (hfunction.not_error_of_ok (hf.comesTo_error he)).elim
  | argument hfunction ha ih =>
      cases hpath' with
      | here =>
          cases he' with
          | call _ hargument _ =>
              exact (hargument.not_error_of_ok (ha.comesTo_error he)).elim
      | function hf' =>
          exact (hfunction.not_error_of_ok (hf'.comesTo_error he')).elim
      | argument _ ha' =>
          rw [ih he ha']

end Errors

/-- An error at the end of a way is the error of the whole, in every
evaluation. An expression that ends in an error has exactly one way to a place
where the error arises. -/
theorem first_error_ends_evaluation (scope : Scope) :
    (∀ (way : List Turn) (t e : Expr) (cause : RuntimeError),
      Path scope way t e → e.ComesTo scope (.error cause) →
      ∀ planted stamp : Stamp, ∃ limit result,
        Tree.evaluate limit ⟨planted, t⟩ scope stamp = some result ∧
        result.outcome = .error cause) ∧
    (∀ (t : Expr) (cause : RuntimeError),
      t.ComesTo scope (.error cause) →
      ∃! way, ∃ e, Path scope way t e ∧ e.Raises scope cause) := by
  constructor
  · intro way t e cause hpath he planted stamp
    obtain ⟨stamp', hyields⟩ :=
      hpath.exists_yields_error he (.root planted) stamp
    obtain ⟨limit, hevaluate⟩ := (Machine.ends_iff_yields _ _ _).mpr hyields
    exact ⟨limit, _, hevaluate, rfl⟩
  · intro t cause ht
    obtain ⟨stamp, hyields⟩ := ht.exists_yields_error (.root 0) 0
    obtain ⟨way, e, hpath, he⟩ := exists_path_of_yields hyields
    refine ⟨way, ⟨e, hpath, he⟩, ?_⟩
    rintro way' ⟨e', hpath', he'⟩
    exact hpath'.eq_of_raises he' hpath he

/-- The argument of a sum fails at a call that has a diverging argument of its
own to the right, and so does the sum. -/
theorem first_error_before_divergence :
    let twice : Expr := .lam "w" (.app (.var "w") (.var "w"))
    let endless : Expr := .app twice twice
    let failing : Expr := .app (.var "add") (.bool false)
    let sum : Expr :=
      .app (.app (.app (.var "add") (.number 1)) (.app failing endless))
        endless
    let cause : RuntimeError := .notNumber "add" "false"
    Path .standard [.function, .argument, .function] sum failing ∧
    failing.ComesTo .standard (.error cause) ∧
    (∃ limit result,
      Tree.evaluate limit ⟨7, sum⟩ .standard 8 = some result ∧
      result.outcome = .error cause) ∧
    sum.ComesTo .standard (.error cause) ∧
    ∃! way, ∃ e, Path .standard way sum e ∧ e.Raises .standard cause := by
  intro twice endless failing sum cause
  obtain ⟨hends, harises⟩ := first_error_ends_evaluation .standard
  have hadd : (app (.var "add") (.number 1)).ComesTo .standard
      (.ok (.builtin 8 (.addTo 1))) :=
    ⟨9, 7, 8, ⟨_, 9⟩, rfl, rfl⟩
  have hpath : Path .standard [.function, .argument, .function] sum failing :=
    .function (.argument hadd (.function (.here failing)))
  have hfailing : failing.ComesTo .standard (.error cause) :=
    ⟨9, 7, 8, ⟨_, 9⟩, rfl, rfl⟩
  have hsum := hends _ _ _ _ hpath hfailing 7 8
  have hcomes : sum.ComesTo .standard (.error cause) := by
    obtain ⟨limit, result, hevaluate, hresult⟩ := hsum
    exact ⟨limit, 7, 8, result, hevaluate, hresult⟩
  exact ⟨hpath, hfailing, hsum, hcomes, harises sum cause hcomes⟩

end Expr
end LamApp
