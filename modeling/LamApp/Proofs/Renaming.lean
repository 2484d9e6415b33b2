import LamApp.Proofs.Coincidence
import Mathlib.Logic.Relation

/-!
# Renaming of parameters

Two expressions are alpha-equivalent if they are the same but for the names of
parameters. They are compared with a naming at hand, which tells what names of
one expression stand for what names of the other; below two parameters it is
these that stand for each other. Outside of all parameters every name stands for
itself.

Parameters are seen in the written form of closures, and written forms are seen
in the errors of builtins. Nothing else depends on them.

Main statement: alpha-equivalent programs come to an end together, with the same
number or truth value, with two functions of the same kind, or with errors that
differ at most in the value that they quote.
-/

namespace LamApp

/-- Which names of one expression stand for which names of another. -/
abbrev Naming := String → String → Prop

/-- Below two parameters these stand for each other, and all other names stand
for what they stood for before. -/
def Naming.under (naming : Naming) (parameter parameter' : String) : Naming :=
  fun name name' =>
    name = parameter ∧ name' = parameter' ∨
      name ≠ parameter ∧ name' ≠ parameter' ∧ naming name name'

namespace Expr

/-- The same expression, if names are read by the naming. -/
inductive Alpha : Naming → Expr → Expr → Prop
  | error {naming : Naming} (cause : SyntaxError) :
      Alpha naming (.error cause) (.error cause)
  | var {naming : Naming} {name name' : String} :
      naming name name' → Alpha naming (.var name) (.var name')
  | number {naming : Naming} (value : Int) :
      Alpha naming (.number value) (.number value)
  | bool {naming : Naming} (value : Bool) :
      Alpha naming (.bool value) (.bool value)
  | lam {naming : Naming} {parameter parameter' : String} {body body' : Expr} :
      Alpha (naming.under parameter parameter') body body' →
      Alpha naming (.lam parameter body) (.lam parameter' body')
  | app {naming : Naming} {f f' a a' : Expr} :
      Alpha naming f f' → Alpha naming a a' →
      Alpha naming (.app f a) (.app f' a')

/-- The same expression but for the names of parameters. -/
def AlphaEq (e e' : Expr) : Prop :=
  Alpha Eq e e'

/-! ## Alpha-equivalence -/

/-- An expression of which each free name stands for itself. -/
theorem alpha_self
    {naming : Naming} {e : Expr} (h : ∀ name, e.Free name → naming name name) :
    Alpha naming e e := by
  induction e generalizing naming with
  | error cause =>
      exact .error cause
  | var name =>
      exact .var (h name rfl)
  | number value =>
      exact .number value
  | bool value =>
      exact .bool value
  | lam parameter body ih =>
      refine .lam (ih fun name hfree => ?_)
      by_cases hname : name = parameter
      · exact .inl ⟨hname, hname⟩
      · exact .inr ⟨hname, hname, h name ⟨Ne.symm hname, hfree⟩⟩
  | app f a ihf iha =>
      exact .app (ihf fun name hfree => h name (.inl hfree))
        (iha fun name hfree => h name (.inr hfree))

theorem Alpha.symm
    {naming naming' : Naming} {e e' : Expr} (h : Alpha naming e e')
    (hnaming : ∀ name name', naming name name' → naming' name' name) :
    Alpha naming' e' e := by
  induction h generalizing naming' with
  | error cause =>
      exact .error cause
  | var hname =>
      exact .var (hnaming _ _ hname)
  | number value =>
      exact .number value
  | bool value =>
      exact .bool value
  | lam _ ih =>
      refine .lam (ih ?_)
      rintro name name' (⟨hname, hname'⟩ | ⟨hname, hname', hold⟩)
      · exact .inl ⟨hname', hname⟩
      · exact .inr ⟨hname', hname, hnaming _ _ hold⟩
  | app _ _ ihf iha =>
      exact .app (ihf hnaming) (iha hnaming)

theorem Alpha.trans
    {naming naming' naming'' : Naming} {e e' e'' : Expr}
    (h : Alpha naming e e') (h' : Alpha naming' e' e'')
    (hnaming : ∀ name name' name'', naming name name' →
      naming' name' name'' → naming'' name name'') :
    Alpha naming'' e e'' := by
  induction h generalizing naming' naming'' e'' with
  | error cause =>
      cases h'
      exact .error cause
  | var hname =>
      cases h' with
      | var hname' =>
          exact .var (hnaming _ _ _ hname hname')
  | number value =>
      cases h'
      exact .number value
  | bool value =>
      cases h'
      exact .bool value
  | lam _ ih =>
      cases h' with
      | lam hbody' =>
          refine .lam (ih hbody' ?_)
          rintro name name' name'' (⟨h₁, h₂⟩ | ⟨h₁, h₂, h₃⟩)
            (⟨h₂', h₃'⟩ | ⟨h₂', h₃', h₄'⟩)
          · exact .inl ⟨h₁, h₃'⟩
          · exact absurd h₂ h₂'
          · exact absurd h₂' h₂
          · exact .inr ⟨h₁, h₃', hnaming _ _ _ h₃ h₄'⟩
  | app _ _ ihf iha =>
      cases h' with
      | app hf' ha' =>
          exact .app (ihf hf' hnaming) (iha ha' hnaming)

theorem alphaEq_equivalence :
    Equivalence AlphaEq where
  refl _ := alpha_self fun _ _ => rfl
  symm h := h.symm fun _ _ hname => hname.symm
  trans h h' := h.trans h' fun _ _ _ hname hname' => hname.trans hname'

/-- A free name stands for a free name. -/
theorem Alpha.exists_free
    {naming : Naming} {e e' : Expr} (h : Alpha naming e e')
    {name : String} (hfree : e.Free name) :
    ∃ name', naming name name' ∧ e'.Free name' := by
  induction h with
  | error cause =>
      exact hfree.elim
  | number value =>
      exact hfree.elim
  | bool value =>
      exact hfree.elim
  | var hname =>
      obtain rfl := hfree
      exact ⟨_, hname, rfl⟩
  | lam _ ih =>
      obtain ⟨hname, hfree⟩ := hfree
      obtain ⟨name', ⟨heq, -⟩ | ⟨-, hname', hold⟩, hfree'⟩ := ih hfree
      · exact absurd heq.symm hname
      · exact ⟨name', hold, Ne.symm hname', hfree'⟩
  | app _ _ ihf iha =>
      rcases hfree with hfree | hfree
      · obtain ⟨name', hname, hfree'⟩ := ihf hfree
        exact ⟨name', hname, .inl hfree'⟩
      · obtain ⟨name', hname, hfree'⟩ := iha hfree
        exact ⟨name', hname, .inr hfree'⟩

/-- Alpha-equivalent expressions have the same free variables. -/
theorem AlphaEq.free_iff
    {e e' : Expr} (h : e.AlphaEq e') (name : String) :
    e.Free name ↔ e'.Free name := by
  constructor
  · intro hfree
    obtain ⟨_, rfl, hfree'⟩ := Alpha.exists_free h hfree
    exact hfree'
  · intro hfree
    obtain ⟨_, rfl, hfree'⟩ :=
      Alpha.exists_free (alphaEq_equivalence.symm h) hfree
    exact hfree'

/-! ## One parameter after the other -/

/-- Puts another name in the place of a free variable. -/
def rename (name name' : String) : Expr → Expr
  | .error cause => .error cause
  | .var other => .var (if other = name then name' else other)
  | .number value => .number value
  | .bool value => .bool value
  | .lam parameter body =>
    .lam parameter (if parameter = name then body else body.rename name name')
  | .app f a => .app (f.rename name name') (a.rename name name')

/-- No parameter of this name stands over the free variable, so that the name
can take the place of the variable without being caught. -/
def Admits (name name' : String) : Expr → Prop
  | .lam parameter body =>
    parameter = name ∨
      (body.Free name → parameter ≠ name') ∧ body.Admits name name'
  | .app f a => f.Admits name name' ∧ a.Admits name name'
  | _ => True

theorem alpha_rename
    {naming : Naming} {name name' : String} {e : Expr}
    (hadmits : e.Admits name name')
    (hother : ∀ other, e.Free other → other ≠ name → naming other other)
    (hname : e.Free name → naming name name') :
    Alpha naming e (e.rename name name') := by
  induction e generalizing naming with
  | error cause =>
      exact .error cause
  | number value =>
      exact .number value
  | bool value =>
      exact .bool value
  | var other =>
      rw [rename]
      split
      next heq =>
          subst heq
          exact .var (hname rfl)
      next hne =>
          exact .var (hother other rfl hne)
  | app f a ihf iha =>
      exact .app
        (ihf hadmits.1 (fun other hfree => hother other (.inl hfree))
          fun hfree => hname (.inl hfree))
        (iha hadmits.2 (fun other hfree => hother other (.inr hfree))
          fun hfree => hname (.inr hfree))
  | lam parameter body ih =>
      rw [rename]
      by_cases hparameter : parameter = name
      · -- The parameter hides the variable, and nothing is to be done below.
        subst hparameter
        rw [if_pos rfl]
        refine alpha_self fun other hfree => ?_
        exact hother other hfree (Ne.symm hfree.1)
      · rw [if_neg hparameter]
        obtain ⟨hcaught, hbody⟩ := hadmits.resolve_left hparameter
        refine .lam (ih hbody (fun other hfree hne => ?_) fun hfree => ?_)
        · by_cases heq : other = parameter
          · exact .inl ⟨heq, heq⟩
          · exact .inr ⟨heq, heq, hother other ⟨Ne.symm heq, hfree⟩ hne⟩
        · exact .inr ⟨Ne.symm hparameter, Ne.symm (hcaught hfree),
            hname ⟨hparameter, hfree⟩⟩

/-- One parameter gets another name, which neither catches a free variable of
the body nor is caught on its way there. -/
inductive Renames : Expr → Expr → Prop
  | parameter {name name' : String} {body : Expr} :
      ¬ (Expr.lam name body).Free name' →
      body.Admits name name' →
      Renames (.lam name body) (.lam name' (body.rename name name'))
  | body {parameter : String} {body body' : Expr} :
      Renames body body' →
      Renames (.lam parameter body) (.lam parameter body')
  | function {f f' a : Expr} :
      Renames f f' → Renames (.app f a) (.app f' a)
  | argument {f a a' : Expr} :
      Renames a a' → Renames (.app f a) (.app f a')

theorem Renames.alpha
    {naming : Naming} (hnaming : ∀ name, naming name name)
    {e e' : Expr} (h : e.Renames e') :
    Alpha naming e e' := by
  induction h generalizing naming with
  | @parameter name name' body hfree hadmits =>
      refine .lam (alpha_rename hadmits ?_ fun _ => .inl ⟨rfl, rfl⟩)
      intro other hother hne
      have hne' : other ≠ name' := by
        rintro rfl
        exact hfree ⟨Ne.symm hne, hother⟩
      exact .inr ⟨hne, hne', hnaming other⟩
  | @body parameter body body' _ ih =>
      refine .lam (ih fun name => ?_)
      by_cases hname : name = parameter
      · exact .inl ⟨hname, hname⟩
      · exact .inr ⟨hname, hname, hnaming name⟩
  | function _ ih =>
      exact .app (ih hnaming) (alpha_self fun name _ => hnaming name)
  | argument _ ih =>
      exact .app (alpha_self fun name _ => hnaming name) (ih hnaming)

/-- However many parameters are renamed, the expressions are alpha-equivalent. -/
theorem alphaEq_of_renames
    {e e' : Expr} (h : Relation.EqvGen Renames e e') :
    e.AlphaEq e' := by
  induction h with
  | rel _ _ hrenames =>
      exact hrenames.alpha fun _ => rfl
  | refl e =>
      exact alphaEq_equivalence.refl e
  | symm _ _ _ ih =>
      exact alphaEq_equivalence.symm ih
  | trans _ _ _ _ _ ih ih' =>
      exact alphaEq_equivalence.trans ih ih'

end Expr

/-! ## Evaluation -/

/-- The same error, but for the value that it quotes. -/
def RuntimeError.SameKind : RuntimeError → RuntimeError → Prop
  | .unknownIdentifier name, .unknownIdentifier name' => name = name'
  | .invalidFunction value, .invalidFunction value' => value = value'
  | .notNumber builtin _, .notNumber builtin' _ => builtin = builtin'
  | .notBool builtin _, .notBool builtin' _ => builtin = builtin'
  | .unreadable cause, .unreadable cause' => cause = cause'
  | _, _ => False

theorem RuntimeError.sameKind_self
    (cause : RuntimeError) :
    cause.SameKind cause := by
  cases cause <;> rfl

namespace Value

/-- The same number or truth value, two functions of the same kind, or two
errors of the same kind. -/
def SameKind : Value → Value → Prop
  | .error cause, .error cause' => cause.SameKind cause'
  | .bool value, .bool value' => value = value'
  | .number value, .number value' => value = value'
  | .builtin _ _, .builtin _ _ => True
  | .closure _ _ _ _, .closure _ _ _ _ => True
  | _, _ => False

/-- The same value, but for the names of parameters in it, and for its stamps
and sites. The scopes of closures agree on the names that stand for each
other. -/
inductive Renamed : Value → Value → Prop
  | error {cause cause' : RuntimeError} :
      cause.SameKind cause' → Renamed (.error cause) (.error cause')
  | bool (value : Bool) : Renamed (.bool value) (.bool value)
  | number (value : Int) : Renamed (.number value) (.number value)
  | builtin (stamp stamp' : Stamp) (function : Builtin) :
      Renamed (.builtin stamp function) (.builtin stamp' function)
  | condElse (stamp stamp' : Stamp) (condition : Bool)
      {thenValue thenValue' : Value} :
      Renamed thenValue thenValue' →
      Renamed (.builtin stamp (.condElse condition thenValue))
        (.builtin stamp' (.condElse condition thenValue'))
  | closure (site site' : Site) {naming : Naming}
      {parameter parameter' : String} {body body' : Expr}
      {scope scope' : Scope} :
      (Expr.lam parameter body).Alpha naming (.lam parameter' body') →
      (∀ name name', naming name name' →
        Outcome.Related Renamed RuntimeError.SameKind
          (scope.resolve name) (scope'.resolve name')) →
      Renamed (.closure site parameter body scope)
        (.closure site' parameter' body' scope')

end Value

namespace Scope

/-- Names that stand for each other come to the same, but for the names of
parameters. -/
def Agree (naming : Naming) (scope scope' : Scope) : Prop :=
  ∀ name name', naming name name' →
    Outcome.Related Value.Renamed RuntimeError.SameKind
      (scope.resolve name) (scope'.resolve name')

theorem resolve_bind_of_ne
    {name symbol : String} (hne : name ≠ symbol)
    (stamp : Stamp) (value : Value) (outer : Scope) :
    (bind stamp symbol value outer).resolve name = outer.resolve name := by
  rw [resolve, lookup, if_neg (Ne.symm hne), resolve]

/-- What is bound last is what its name comes to. -/
theorem related_resolve_bind
    {value value' : Value} (h : value.Renamed value')
    (stamp stamp' : Stamp) (symbol symbol' : String) (outer outer' : Scope) :
    Outcome.Related Value.Renamed RuntimeError.SameKind
      ((bind stamp symbol value outer).resolve symbol)
      ((bind stamp' symbol' value' outer').resolve symbol') := by
  simp only [resolve, lookup, if_true]
  cases h with
  | error hcause =>
      exact .error hcause
  | bool value =>
      exact .ok (.bool value)
  | number value =>
      exact .ok (.number value)
  | builtin created created' function =>
      exact .ok (.builtin created created' function)
  | condElse created created' condition hthen =>
      exact .ok (.condElse created created' condition hthen)
  | closure site site' halpha hscope =>
      exact .ok (.closure site site' halpha hscope)

/-- Below two parameters the scopes agree on more names. -/
theorem Agree.bind
    {naming : Naming} {scope scope' : Scope} (h : scope.Agree naming scope')
    {value value' : Value} (hvalue : value.Renamed value')
    (stamp stamp' : Stamp) (symbol symbol' : String) :
    (Scope.bind stamp symbol value scope).Agree (naming.under symbol symbol')
      (.bind stamp' symbol' value' scope') := by
  rintro name name' (⟨rfl, rfl⟩ | ⟨hname, hname', hold⟩)
  · exact related_resolve_bind hvalue stamp stamp' _ _ scope scope'
  · rw [resolve_bind_of_ne hname, resolve_bind_of_ne hname']
    exact h name name' hold

end Scope

mutual

theorem Value.renamed_self (value : Value) :
    value.Renamed value := by
  match value with
  | .error cause =>
      exact .error cause.sameKind_self
  | .bool value =>
      exact .bool value
  | .number value =>
      exact .number value
  | .builtin stamp function =>
      exact .builtin stamp stamp function
  | .closure site parameter body scope =>
      refine .closure site site (Expr.alphaEq_equivalence.refl _) ?_
      rintro name _ rfl
      exact scope.related_resolve_self name

theorem Scope.related_resolve_self (scope : Scope) (name : String) :
    Outcome.Related Value.Renamed RuntimeError.SameKind
      (scope.resolve name) (scope.resolve name) := by
  cases scope with
  | empty =>
      exact .error (RuntimeError.sameKind_self _)
  | bind stamp symbol value outer =>
      by_cases hname : name = symbol
      · subst hname
        exact Scope.related_resolve_bind value.renamed_self stamp stamp _ _
          outer outer
      · rw [Scope.resolve_bind_of_ne hname]
        exact outer.related_resolve_self name

end

theorem Scope.agree_self
    (scope : Scope) :
    scope.Agree Eq scope := by
  rintro name _ rfl
  exact scope.related_resolve_self name

namespace Value

theorem Renamed.sameKind
    {value value' : Value} (h : value.Renamed value') :
    value.SameKind value' := by
  cases h with
  | error hcause =>
      exact hcause
  | bool value =>
      rfl
  | number value =>
      rfl
  | _ =>
      trivial

/-- Values that differ in the names of parameters go through the same steps. -/
theorem simulation_renamed :
    Simulation Renamed
      (fun e scope e' scope' =>
        ∃ naming, e.Alpha naming e' ∧ scope.Agree naming scope')
      RuntimeError.SameKind where
  value h := by
    cases h with
    | error hcause =>
        exact .error hcause
    | bool value =>
        exact .bool value
    | number value =>
        exact .number value
    | builtin stamp stamp' function =>
        exact .builtin (Builtin.related_self renamed_self function)
    | condElse stamp stamp' condition hthen =>
        exact .builtin ⟨rfl, hthen⟩
    | closure site site' halpha hscope =>
        refine .closure fun stamp stamp' argument argument' hargument => ?_
        cases halpha with
        | lam hbody =>
            exact ⟨_, hbody, Scope.Agree.bind hscope hargument stamp stamp' _ _⟩
  expr := by
    rintro e scope e' scope' ⟨naming, halpha, hscope⟩
    cases halpha with
    | error cause =>
        exact .error rfl
    | var hname =>
        exact .var (hscope _ _ hname)
    | number value =>
        exact .number value
    | bool value =>
        exact .bool value
    | lam hbody =>
        exact .lam fun site site' => .closure site site' (.lam hbody) hscope
    | app hf ha =>
        exact .app ⟨naming, hf, hscope⟩ ⟨naming, ha, hscope⟩
  number := .number
  bool := .bool
  builtin stamp stamp' {_ _} h := h.value .builtin .condElse stamp stamp'
  notNumber _ {_ _} _ := rfl
  notBool _ {_ _} _ := rfl
  invalidFunction _ := rfl

end Value

theorem Outcome.Related.sameKind
    {outcome outcome' : Outcome}
    (h : Outcome.Related Value.Renamed RuntimeError.SameKind outcome outcome') :
    outcome.toValue.SameKind outcome'.toValue := by
  cases h with
  | ok hvalue =>
      exact hvalue.sameKind
  | error hcause =>
      exact hcause

/-- In any scope alpha-equivalent trees come to outcomes of the same kind. -/
theorem Tree.alike_evaluate_of_alphaEq
    {tree tree' : Tree} (h : tree.root.AlphaEq tree'.root) (scope : Scope)
    (stamp stamp' : Stamp) :
    Alike (fun outcome outcome' => outcome.toValue.SameKind outcome'.toValue)
      (tree.evaluate · scope stamp) (tree'.evaluate · scope stamp') := by
  refine (Value.simulation_renamed.alike_evaluate ?_ stamp stamp').imp
    fun _ _ houtcome => houtcome.sameKind
  exact ⟨Eq, h, scope.agree_self⟩

namespace Expr

/-- Alpha-equivalent programs have the same free variables, and they come to an
end together, with values or errors of the same kind. -/
theorem evaluate_of_alphaEq
    {e e' : Expr} (h : e.AlphaEq e') :
    (∀ name, e.Free name ↔ e'.Free name) ∧
    ((∃ limit value, e.evaluate limit = some value) ↔
      ∃ limit value, e'.evaluate limit = some value) ∧
    ∀ limit limit' value value',
      e.evaluate limit = some value → e'.evaluate limit' = some value' →
      value.SameKind value' := by
  let tree : Tree := ⟨Stamp.start, e⟩
  let tree' : Tree := ⟨Stamp.start, e'⟩
  have hroot : tree.root.AlphaEq tree'.root := h
  obtain ⟨hends, hkind⟩ := Tree.alike_evaluate_of_alphaEq hroot .standard
    (Stamp.start + 1) (Stamp.start + 1)
  refine ⟨h.free_iff, ⟨?_, ?_⟩, ?_⟩
  · rintro ⟨limit, value, hvalue⟩
    obtain ⟨result, hrun, -⟩ := Option.map_eq_some_iff.mp hvalue
    obtain ⟨limit', result', hrun'⟩ := hends.mp ⟨limit, result, hrun⟩
    exact ⟨limit', _, Option.map_eq_some_iff.mpr ⟨result', hrun', rfl⟩⟩
  · rintro ⟨limit', value', hvalue'⟩
    obtain ⟨result', hrun', -⟩ := Option.map_eq_some_iff.mp hvalue'
    obtain ⟨limit, result, hrun⟩ := hends.mpr ⟨limit', result', hrun'⟩
    exact ⟨limit, _, Option.map_eq_some_iff.mpr ⟨result, hrun, rfl⟩⟩
  · intro limit limit' value value' hvalue hvalue'
    obtain ⟨result, hrun, rfl⟩ := Option.map_eq_some_iff.mp hvalue
    obtain ⟨result', hrun', rfl⟩ := Option.map_eq_some_iff.mp hvalue'
    exact hkind limit limit' result result' hrun hrun'

/-- Two parameters are renamed, one to the name of a builtin and one to the name
that the other has given up. The builtin that is left complains of the inner
function under either name. -/
theorem evaluate_of_two_renamings :
    let inner : String → Expr := fun name => .lam name (.var name)
    let outer : String → Expr → Expr := fun name e =>
      .app (.lam name (.app (.app (.var "add") (.var name)) e)) (.number 1)
    let e := outer "x" (inner "gt")
    let e' := outer "if" (inner "x")
    e.AlphaEq e' ∧
      e.evaluate 20 = some (.error (.notNumber "add" "<lam gt>")) ∧
      e'.evaluate 20 = some (.error (.notNumber "add" "<lam x>")) ∧
      (Value.error (.notNumber "add" "<lam gt>")).SameKind
        (.error (.notNumber "add" "<lam x>")) := by
  intro inner outer e e'
  have hinner : e.Renames (outer "x" (inner "x")) :=
    .function (.body (.argument (@Renames.parameter "gt" "x" (.var "gt")
      (by simp [Free]) trivial)))
  have houter : (outer "x" (inner "x")).Renames e' :=
    .function (@Renames.parameter "x" "if"
      (.app (.app (.var "add") (.var "x")) (inner "x"))
      (by simp [Free, inner]) ⟨⟨trivial, trivial⟩, .inl rfl⟩)
  have halpha : e.AlphaEq e' :=
    alphaEq_of_renames (.trans _ _ _ (.rel _ _ hinner) (.rel _ _ houter))
  have hvalue : e.evaluate 20 =
      some (.error (.notNumber "add" "<lam gt>")) := by
    rfl
  have hvalue' : e'.evaluate 20 =
      some (.error (.notNumber "add" "<lam x>")) := by
    rfl
  exact ⟨halpha, hvalue, hvalue',
    (evaluate_of_alphaEq halpha).2.2 20 20 _ _ hvalue hvalue'⟩

end Expr
end LamApp
