import LamApp.Proofs.Coincidence

/-!
# Choices between delayed branches

The builtin for choice is an ordinary function: both branches are evaluated
before one of them is chosen. A branch below a `lam` form is not. It is a
closure, and the choice hands on one closure of the two. Only its call with
some argument evaluates the branch, in the scope of the choice and with one
more binding, of a name that the branch does not use.

Main statement: a choice between branches that are delayed in this way does
what the chosen branch does, whatever the other branch would do.
-/

namespace LamApp

namespace Expr

/-- A choice between two `lam` forms, each with one of the branches as its
body. -/
def choiceOfForms (condition : Expr) (parameter : String)
    (thenBranch elseBranch : Expr) : Expr :=
  .app (.app (.app (.var "if") condition) (.lam parameter thenBranch))
    (.lam parameter elseBranch)

/-- A choice of which both branches stand below `lam` forms. The chosen form is
called with an argument that only sets it off. -/
def delayedChoice (condition : Expr) (parameter : String)
    (thenBranch elseBranch trigger : Expr) : Expr :=
  .app (choiceOfForms condition parameter thenBranch elseBranch) trigger

/-- Some evaluation of the expression in the scope comes to this outcome. -/
def ComesTo (e : Expr) (scope : Scope) (outcome : Outcome) : Prop :=
  ∃ (limit : Nat) (planted stamp : Stamp) (result : Evaluation),
    Tree.evaluate limit ⟨planted, e⟩ scope stamp = some result ∧
    result.outcome = outcome

/-- What one evaluation of an expression comes to, every other one comes to as
well, but for stamps and sites. -/
theorem exists_yields_elsewhere
    {e : Expr} {scope : Scope} {site : Site} {stamp : Stamp}
    {result : Evaluation}
    (hyields : Control.Yields (.eval e site scope) stamp result)
    (site' : Site) (stamp' : Stamp) :
    ∃ result',
      Control.Yields (.eval e site' scope) stamp' result' ∧
      Outcome.Related Value.Resembles Eq result.outcome result'.outcome := by
  have halike : e.MeansAlike scope scope :=
    meansAlike_of_lookup_eq fun _ _ => rfl
  exact Value.simulation_resembles.exists_yields hyields
    (.eval site site' ⟨rfl, halike⟩) stamp'

theorem ComesTo.exists_yields
    {e : Expr} {scope : Scope} {outcome : Outcome}
    (h : e.ComesTo scope outcome) (site : Site) (stamp : Stamp) :
    ∃ result,
      Control.Yields (.eval e site scope) stamp result ∧
      Outcome.Related Value.Resembles Eq outcome result.outcome := by
  obtain ⟨limit, planted, stamp₀, result₀, hevaluate, rfl⟩ := h
  exact exists_yields_elsewhere (Tree.yields_of_evaluate_eq_some hevaluate)
    site stamp

/-- An evaluation that comes to a truth value always comes to the same one. -/
theorem ComesTo.exists_yields_bool
    {e : Expr} {scope : Scope} {value : Bool}
    (h : e.ComesTo scope (.ok (.bool value))) (site : Site) (stamp : Stamp) :
    ∃ stamp',
      Control.Yields (.eval e site scope) stamp
        ⟨.ok (.bool value), stamp'⟩ := by
  obtain ⟨⟨_, stamp'⟩, hyields, hrelated⟩ := h.exists_yields site stamp
  obtain ⟨hvalue⟩ := hrelated
  cases hvalue
  exact ⟨stamp', hyields⟩

/-- An evaluation without error is always one. -/
theorem ComesTo.exists_yields_ok
    {e : Expr} {scope : Scope} {value : Value}
    (h : e.ComesTo scope (.ok value)) (site : Site) (stamp : Stamp) :
    ∃ value' stamp',
      Control.Yields (.eval e site scope) stamp ⟨.ok value', stamp'⟩ := by
  obtain ⟨⟨_, stamp'⟩, hyields, hrelated⟩ := h.exists_yields site stamp
  obtain ⟨-⟩ := hrelated
  exact ⟨_, stamp', hyields⟩

/-- Both forms are evaluated to closures, and the choice hands on one of them.
Nothing is evaluated below the forms. -/
theorem exists_yields_choiceOfForms
    {scope : Scope} {created : Stamp}
    (hif : scope.lookup "if" = some (.builtin created .cond))
    {condition : Expr} {choice : Bool}
    (hcondition : condition.ComesTo scope (.ok (.bool choice)))
    (parameter : String) (thenBranch elseBranch : Expr)
    (site : Site) (stamp : Stamp) :
    ∃ site' stamp',
      Control.Yields
        (.eval (choiceOfForms condition parameter thenBranch elseBranch) site
          scope) stamp
        ⟨.ok (.closure site' parameter
          (if choice then thenBranch else elseBranch) scope), stamp'⟩ := by
  have hresolve : scope.resolve "if" = .ok (.builtin created .cond) := by
    rw [Scope.resolve, hif]
  have hvar := Control.Yields.var "if"
    (((site.turn .function).turn .function).turn .function) scope stamp
  rw [hresolve] at hvar
  obtain ⟨stamp₁, hchoice⟩ := hcondition.exists_yields_bool
    (((site.turn .function).turn .function).turn .argument) stamp
  -- The builtin takes the condition and then the two closures, one at a time.
  have hthen := Control.Yields.app
    (.app hvar hchoice (.callBuiltin _ _ _ stamp₁))
    (.lam parameter thenBranch ((site.turn .function).turn .argument) scope _)
    (.callBuiltin _ _ _ _)
  have helse := Control.Yields.app hthen
    (.lam parameter elseBranch (site.turn .argument) scope _)
    (.callBuiltin _ _ _ _)
  cases choice with
  | true =>
      exact ⟨_, _, helse⟩
  | false =>
      exact ⟨_, _, helse⟩

/-- A delayed choice evaluates the chosen branch in the scope that the choice
stands in, with one more binding. -/
theorem exists_yields_delayedChoice_iff
    {scope : Scope} {created : Stamp}
    (hif : scope.lookup "if" = some (.builtin created .cond))
    {condition trigger : Expr} {choice : Bool} {value : Value}
    (hcondition : condition.ComesTo scope (.ok (.bool choice)))
    (htrigger : trigger.ComesTo scope (.ok value))
    (parameter : String) (thenBranch elseBranch : Expr)
    (site : Site) (stamp : Stamp) :
    ∃ site' stamp' argument, ∀ result,
      Control.Yields
          (.eval (delayedChoice condition parameter thenBranch elseBranch
            trigger) site scope) stamp result ↔
        Control.Yields
          (.eval (if choice then thenBranch else elseBranch) site'
            (.bind stamp' parameter argument scope)) (stamp' + 1) result := by
  obtain ⟨site₁, stamp₁, hform⟩ :=
    exists_yields_choiceOfForms hif hcondition parameter thenBranch elseBranch
      (site.turn .function) stamp
  obtain ⟨argument, stamp₂, hargument⟩ :=
    htrigger.exists_yields_ok (site.turn .argument) stamp₁
  refine ⟨site₁.turn .body, stamp₂, argument, fun result => ?_⟩
  rw [delayedChoice, Control.yields_app_iff hform hargument,
    Control.yields_call_closure_iff]

/-- A name that is not free in an expression may be bound around it. -/
theorem meansAlike_bind
    {e : Expr} {parameter : String} (hfree : ¬ e.Free parameter)
    (stamp : Stamp) (argument : Value) (scope : Scope) :
    e.MeansAlike (.bind stamp parameter argument scope) scope := by
  apply meansAlike_of_lookup_eq
  intro name hname
  have hne : parameter ≠ name := by
    rintro rfl
    exact hfree hname
  rw [Scope.lookup, if_neg hne]

/-- A choice between delayed branches comes to an end exactly if the chosen
branch does, and then to an outcome that cannot be told from that of the
branch. -/
theorem delayedChoice_alike_branch
    {scope : Scope} {created : Stamp}
    (hif : scope.lookup "if" = some (.builtin created .cond))
    {condition trigger : Expr} {choice : Bool} {value : Value}
    (hcondition : condition.ComesTo scope (.ok (.bool choice)))
    (htrigger : trigger.ComesTo scope (.ok value))
    {parameter : String} {thenBranch elseBranch : Expr}
    (hthen : ¬ thenBranch.Free parameter)
    (helse : ¬ elseBranch.Free parameter)
    (planted planted' stamp stamp' : Stamp) :
    Alike (Outcome.Related Value.Indistinguishable Eq)
      (Tree.evaluate ·
        ⟨planted, delayedChoice condition parameter thenBranch elseBranch
          trigger⟩ scope stamp)
      (Tree.evaluate ·
        ⟨planted', if choice then thenBranch else elseBranch⟩ scope
          stamp') := by
  obtain ⟨site₁, stamp₁, argument, hiff⟩ :=
    exists_yields_delayedChoice_iff hif hcondition htrigger parameter
      thenBranch elseBranch (.root planted) stamp
  have hfree :
      ¬ (if choice then thenBranch else elseBranch).Free parameter := by
    cases choice with
    | true =>
        exact hthen
    | false =>
        exact helse
  have hbranch := Value.simulation_resembles.alike
    (.eval site₁ (.root planted')
      ⟨rfl, meansAlike_bind hfree stamp₁ argument scope⟩)
    (stamp₁ + 1) stamp'
  -- The branch runs in two scopes that agree on its free variables, and the
  -- choice ends as the branch does in the first of them.
  refine Alike.of_ends_iff (fun result => ?_) (hbranch.imp fun _ _ hresult =>
    hresult.imp fun _ _ hvalue =>
      Value.simulation_resembles.indistinguishable Value.resembles_self hvalue)
  have hends := hiff result
  rw [← Machine.ends_iff_yields, ← Machine.ends_iff_yields] at hends
  exact hends

/-- The other branch would run for ever. -/
theorem delayedChoice_beside_divergence :
    let twice : Expr := .lam "w" (.app (.var "w") (.var "w"))
    let condition : Expr := .app (.app (.var "gt") (.var "k")) (.number 0)
    let branch : Expr := .app (.app (.var "add") (.var "k")) (.number 1)
    let scope : Scope := .bind 6 "k" (.number 41) .standard
    ∃ limit result,
      Tree.evaluate limit
        ⟨7, delayedChoice condition "u" branch (.app twice twice)
          (.number 0)⟩ scope 8 = some result ∧
      Outcome.Related Value.Indistinguishable Eq result.outcome
        (.ok (.number 42)) := by
  intro twice condition branch scope
  have hcondition : condition.ComesTo scope (.ok (.bool true)) :=
    ⟨12, 7, 8, ⟨.ok (.bool true), 10⟩, rfl, rfl⟩
  have htrigger : (number 0).ComesTo scope (.ok (.number 0)) :=
    ⟨2, 7, 8, ⟨.ok (.number 0), 8⟩, rfl, rfl⟩
  have hbranch : Tree.evaluate 12 ⟨7, branch⟩ scope 8 =
      some ⟨.ok (.number 42), 10⟩ := rfl
  have hif : scope.lookup "if" = some (.builtin 2 .cond) := rfl
  have hthen : ¬ branch.Free "u" := by
    simp [branch, Free]
  have helse : ¬ (app twice twice).Free "u" := by
    simp [twice, Free]
  have halike := delayedChoice_alike_branch hif hcondition htrigger hthen
    helse 7 7 8 8
  obtain ⟨limit, result, hrun⟩ := halike.1.mpr ⟨12, _, hbranch⟩
  exact ⟨limit, result, hrun, halike.2 limit 12 result _ hrun hbranch⟩

end Expr
end LamApp
