import LamApp.Proofs.Coincidence
import LamApp.Proofs.Heredity
import LamApp.Proofs.RoundTrip

/-!
# Where runtime errors come from

An error arises at a place that could not be read, at a variable that nothing
binds or that is bound to an error object, at a builtin that checks its
argument, and at the call of something that is no function. What is known of
the values at these places is known of the error.

Main statement: an error of a program tells of the program. It names a free
variable of the program that is no builtin, or it quotes a value of a kind that
the builtin or the call does not take; a `lam` form in such a quotation has the
parameter of a `lam` form of the program.
-/

namespace LamApp

/-! ## Errors where they arise -/

/-- A property of errors that an error has wherever it arises, among values
that have a property and expressions that have one in their scopes. -/
structure ErrorSources
    (P : Value → Prop) (E : Expr → Scope → Prop) (Q : RuntimeError → Prop) :
    Prop where
  unreadable : ∀ {cause scope}, E (.error cause) scope →
    Q (.unreadable cause)
  resolve : ∀ {name scope cause}, E (.var name) scope → scope.All P →
    scope.resolve name = .error cause → Q cause
  apply : ∀ {function : Builtin} {argument stamp cause}, argument.All P →
    function.apply stamp argument = .error cause → Q cause
  callError : ∀ {cause}, P (.error cause) → Q cause
  callNumber : ∀ value, Q (.invalidFunction (Decimal.text value))
  callBool : ∀ value, Q (.invalidFunction (Expr.boolText value))

namespace Heredity

variable {P : Value → Prop} {E : Expr → Scope → Prop} {Q : RuntimeError → Prop}

/-- The error in which an evaluation ends has the property. -/
theorem cause_of_yields
    (heredity : Heredity P E) (sources : ErrorSources P E Q)
    {control : Control} {stamp : Stamp} {result : Evaluation}
    (hyields : control.Yields stamp result)
    (hadmits : Admits P E control)
    {cause : RuntimeError} (hcause : result.outcome = .error cause) :
    Q cause := by
  induction hyields with
  | error cause' site scope stamp =>
      cases hcause
      exact sources.unreadable hadmits.1
  | var name site scope stamp =>
      exact sources.resolve hadmits.1 hadmits.2 hcause
  | functionError _ ih =>
      exact ih ⟨(heredity.app hadmits.1).1, hadmits.2⟩ hcause
  | argumentError _ _ _ iha =>
      exact iha ⟨(heredity.app hadmits.1).2, hadmits.2⟩ hcause
  | app hf ha _ _ _ ihc =>
      -- The call is made with values that are known to have the property.
      obtain ⟨he, hscope⟩ := hadmits
      obtain ⟨hef, hea⟩ := heredity.app he
      exact ihc ⟨heredity.all_of_yields hf ⟨hef, hscope⟩ rfl,
        heredity.all_of_yields ha ⟨hea, hscope⟩ rfl⟩ hcause
  | callBuiltin created builtin argument stamp =>
      exact sources.apply hadmits.2 hcause
  | callClosure _ ih =>
      obtain ⟨⟨hclosure, hscope⟩, hargument⟩ := hadmits
      exact ih ⟨heredity.call _ _ hclosure, hargument, hscope⟩ hcause
  | callError cause' argument stamp =>
      cases hcause
      exact sources.callError hadmits.1
  | callNumber value argument stamp =>
      cases hcause
      exact sources.callNumber value
  | callBool value argument stamp =>
      cases hcause
      exact sources.callBool value
  | _ =>
      cases hcause

end Heredity

/-- A builtin fails only where it checks its argument. -/
theorem Builtin.check_of_apply_eq_error
    {function : Builtin} {stamp : Stamp} {argument : Value}
    {cause : RuntimeError}
    (happly : function.apply stamp argument = .error cause) :
    (∃ name ∈ ["add", "gt"], argument.number? name = .error cause) ∨
      argument.bool? "if" = .error cause := by
  cases function with
  | add =>
      exact .inl ⟨"add", by simp, Outcome.eq_error_of_map_eq_error happly⟩
  | addTo left =>
      exact .inl ⟨"add", by simp, Outcome.eq_error_of_map_eq_error happly⟩
  | cond =>
      exact .inr (Outcome.eq_error_of_map_eq_error happly)
  | condThen condition =>
      cases happly
  | condElse condition thenValue =>
      cases happly
  | gt =>
      exact .inl ⟨"gt", by simp, Outcome.eq_error_of_map_eq_error happly⟩
  | gtOver left =>
      exact .inl ⟨"gt", by simp, Outcome.eq_error_of_map_eq_error happly⟩

/-! ## Values of a program -/

namespace Expr

/-- Some `lam` form in the expression has the parameter. -/
def Binds (name : String) : Expr → Prop
  | .lam parameter body => parameter = name ∨ body.Binds name
  | .app function argument => function.Binds name ∨ argument.Binds name
  | _ => False

/-- The expression may occur in the scope when the program is evaluated. It has
no unreadable place and no parameter that the program does not have, and what
the scope leaves free is free in the program. The builtins are always there. -/
structure OccursIn (program e : Expr) (scope : Scope) : Prop where
  wellFormed : e.WellFormed
  binds : ∀ name, e.Binds name → program.Binds name
  free : ∀ name, e.Free name → name ∈ scope.symbols ∨ program.Free name
  builtins : ∀ name ∈ ["add", "if", "gt"], name ∈ scope.symbols

theorem occursIn_self
    {program : Expr} (hprogram : program.WellFormed) :
    program.OccursIn program .standard where
  wellFormed := hprogram
  binds _ h := h
  free _ h := .inr h
  builtins := by decide

end Expr

namespace Value

/-- No error object, and no closure but those of `lam` forms that may occur. -/
def OccursIn (program : Expr) : Value → Prop
  | .error _ => False
  | .closure _ parameter body scope =>
    program.OccursIn (.lam parameter body) scope
  | _ => True

theorem heredity_occursIn (program : Expr) :
    Heredity (OccursIn program) program.OccursIn where
  number _ := trivial
  bool _ := trivial
  builtin _ _ := trivial
  app h :=
    ⟨⟨h.wellFormed.1, fun name hname => h.binds name (.inl hname),
        fun name hname => h.free name (.inl hname), h.builtins⟩,
      ⟨h.wellFormed.2, fun name hname => h.binds name (.inr hname),
        fun name hname => h.free name (.inr hname), h.builtins⟩⟩
  lam _ h := h
  call := by
    intro site parameter body scope stamp argument h
    refine ⟨h.wellFormed.2.2, fun name hname => h.binds name (.inr hname), ?_,
      fun name hname => List.mem_cons_of_mem _ (h.builtins name hname)⟩
    intro name hname
    by_cases hparameter : parameter = name
    · exact .inl (hparameter ▸ List.mem_cons_self)
    · exact (h.free name ⟨hparameter, hname⟩).imp_left
        (List.mem_cons_of_mem _)

end Value

namespace Scope

/-- A variable fails to resolve only if it is free in the program. -/
theorem free_of_resolve_eq_error
    {program : Expr} {name : String} {scope : Scope} {cause : RuntimeError}
    (he : program.OccursIn (.var name) scope)
    (hscope : scope.All (Value.OccursIn program))
    (hresolve : scope.resolve name = .error cause) :
    cause = .unknownIdentifier name ∧
      program.Free name ∧ name ∉ ["add", "if", "gt"] := by
  rw [resolve] at hresolve
  split at hresolve
  next hlookup =>
      cases hresolve
      have hsymbols : name ∉ scope.symbols := by
        intro hmem
        have hsome := isSome_lookup hmem
        rw [hlookup] at hsome
        cases hsome
      exact ⟨rfl, (he.free name rfl).resolve_left hsymbols,
        fun hmem => hsymbols (he.builtins name hmem)⟩
  next hlookup =>
      exact (hscope.of_lookup hlookup).elim
  next =>
      cases hresolve

end Scope

/-! ## Quotations in errors -/

/-- The text is how a function of the program reads: a builtin, or a closure of
one of its `lam` forms. -/
def Expr.Quotes (program : Expr) (text : String) : Prop :=
  (∃ function : Builtin, text = "<function " ++ function.name ++ ">") ∨
    ∃ parameter, program.Binds parameter ∧ text = "<lam " ++ parameter ++ ">"

theorem Expr.Quotes.head?_toList
    {program : Expr} {text : String} (h : program.Quotes text) :
    text.toList.head? = some '<' := by
  rcases h with ⟨function, rfl⟩ | ⟨parameter, -, rfl⟩ <;>
    simp [String.toList_append]

theorem Decimal.isNumeral_eq_false_of_head?
    {cs : List Char} (h : cs.head? = some '<') :
    isNumeral cs = false := by
  cases cs with
  | nil =>
      cases h
  | cons c cs =>
      obtain rfl : c = '<' := Option.some.inj h
      rfl

/-- The error tells of the program. -/
def RuntimeError.ComesFrom (program : Expr) : RuntimeError → Prop
  | .unreadable _ => False
  | .unknownIdentifier name =>
    program.Free name ∧ name ∉ ["add", "if", "gt"]
  | .invalidFunction text =>
    text = "true" ∨ text = "false" ∨ ∃ value, text = Decimal.text value
  | .notNumber builtin text =>
    builtin ∈ ["add", "gt"] ∧
      Decimal.isNumeral text.toList = false ∧
      (text = "true" ∨ text = "false" ∨ program.Quotes text)
  | .notBool builtin text =>
    builtin = "if" ∧ text ≠ "true" ∧ text ≠ "false" ∧
      ((∃ value, text = Decimal.text value) ∨ program.Quotes text)

namespace Value

theorem comesFrom_of_number?
    {program : Expr} {value : Value} (hvalue : value.OccursIn program)
    {name : String} (hname : name ∈ ["add", "gt"]) {cause : RuntimeError}
    (h : value.number? name = .error cause) :
    cause.ComesFrom program := by
  have hquotes : program.Quotes value.render →
      (RuntimeError.notNumber name value.render).ComesFrom program :=
    fun hquotes => ⟨hname,
      Decimal.isNumeral_eq_false_of_head? hquotes.head?_toList,
      .inr (.inr hquotes)⟩
  cases value with
  | error cause' =>
      cases hvalue
  | number value =>
      cases h
  | bool value =>
      cases h
      cases value with
      | false =>
          exact ⟨hname, by decide, .inr (.inl rfl)⟩
      | true =>
          exact ⟨hname, by decide, .inl rfl⟩
  | builtin stamp function =>
      cases h
      exact hquotes (.inl ⟨function, rfl⟩)
  | closure site parameter body scope =>
      cases h
      exact hquotes (.inr ⟨parameter, hvalue.binds parameter (.inl rfl), rfl⟩)

theorem comesFrom_of_bool?
    {program : Expr} {value : Value} (hvalue : value.OccursIn program)
    {cause : RuntimeError} (h : value.bool? "if" = .error cause) :
    cause.ComesFrom program := by
  have hquotes : program.Quotes value.render →
      (RuntimeError.notBool "if" value.render).ComesFrom program := by
    intro hquotes
    have hhead := hquotes.head?_toList
    refine ⟨rfl, ?_, ?_, .inr hquotes⟩ <;>
    · intro htext
      rw [htext] at hhead
      cases hhead
  cases value with
  | error cause' =>
      cases hvalue
  | bool value =>
      cases h
  | number value =>
      cases h
      have hnumeral := Decimal.isNumeral_text value
      refine ⟨rfl, ?_, ?_, .inl ⟨value, rfl⟩⟩ <;>
      · intro htext
        rw [render] at htext
        rw [htext] at hnumeral
        cases hnumeral
  | builtin stamp function =>
      cases h
      exact hquotes (.inl ⟨function, rfl⟩)
  | closure site parameter body scope =>
      cases h
      exact hquotes (.inr ⟨parameter, hvalue.binds parameter (.inl rfl), rfl⟩)

theorem errorSources_comesFrom (program : Expr) :
    ErrorSources (OccursIn program) program.OccursIn
      (RuntimeError.ComesFrom program) where
  unreadable he := he.wellFormed.elim
  resolve he hscope hresolve := by
    obtain ⟨rfl, hfree⟩ := Scope.free_of_resolve_eq_error he hscope hresolve
    exact hfree
  apply := by
    intro function argument stamp cause hargument happly
    have hoccurs : argument.OccursIn program := hargument.self
    rcases Builtin.check_of_apply_eq_error happly with
      ⟨name, hname, hcheck⟩ | hcheck
    · exact comesFrom_of_number? hoccurs hname hcheck
    · exact comesFrom_of_bool? hoccurs hcheck
  callError h := h.elim
  callNumber value := .inr (.inr ⟨value, rfl⟩)
  callBool value := by
    cases value with
    | false =>
        exact .inr (.inl rfl)
    | true =>
        exact .inl rfl

end Value

namespace Expr

theorem comesFrom_of_evaluate
    {program : Expr} (hprogram : program.WellFormed) {limit : Nat}
    {cause : RuntimeError}
    (herror : program.evaluate limit = some (.error cause)) :
    cause.ComesFrom program := by
  obtain ⟨result, hyields, hresult⟩ :=
    (program.exists_evaluate_eq_some_iff _).mp ⟨limit, herror⟩
  have hadmits : Heredity.Admits (Value.OccursIn program) program.OccursIn
      (.eval program (.root Stamp.start) .standard) :=
    ⟨occursIn_self hprogram,
      ⟨⟨trivial, trivial⟩, ⟨trivial, trivial⟩, ⟨trivial, trivial⟩, trivial⟩⟩
  cases houtcome : result.outcome with
  | ok value =>
      -- An evaluation does not come to an error object.
      rw [houtcome] at hresult
      obtain rfl : value = .error cause := hresult
      exact ((Value.heredity_occursIn program).all_of_yields hyields hadmits
        houtcome).elim
  | error cause' =>
      rw [houtcome] at hresult
      obtain rfl : cause' = cause := by simpa [Outcome.toValue] using hresult
      exact (Value.heredity_occursIn program).cause_of_yields
        (Value.errorSources_comesFrom program) hyields hadmits houtcome

/-- The error in which a program ends tells of the program. In particular a
program has no unknown identifiers if its free variables are builtins. -/
theorem error_comes_from_program
    {source : String} {program : Expr} (hparse : parse? source = .ok program)
    {limit : Nat} {cause : RuntimeError}
    (herror : program.evaluate limit = some (.error cause)) :
    cause.ComesFrom program ∧
      ((∀ name, program.Free name → name ∈ ["add", "if", "gt"]) →
        ∀ name, cause ≠ .unknownIdentifier name) := by
  have hcomes := comesFrom_of_evaluate (wellFormed_of_parse?_eq_ok hparse)
    herror
  refine ⟨hcomes, ?_⟩
  rintro hbuiltins name rfl
  exact hcomes.2 (hbuiltins name hcomes.1)

/-- The closure that `add` is given was made in a call. -/
theorem error_comes_from_inner_lam :
    ∃ program,
      parse? "app (lam f app app f 1 app lam p lam q p 2) add" =
        .ok program ∧
      program.evaluate 40 = some (.error (.notNumber "add" "<lam q>")) ∧
      (RuntimeError.notNumber "add" "<lam q>").ComesFrom program := by
  let program : Expr := .app
    (.lam "f" (.app (.app (.var "f") (.number 1))
      (.app (.lam "p" (.lam "q" (.var "p"))) (.number 2))))
    (.var "add")
  have hparse : parse? "app (lam f app app f 1 app lam p lam q p 2) add" =
      .ok program := by
    decide +kernel
  have herror : program.evaluate 40 =
      some (.error (.notNumber "add" "<lam q>")) := rfl
  exact ⟨program, hparse, herror, (error_comes_from_program hparse herror).1⟩

end Expr
end LamApp
